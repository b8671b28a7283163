import Handheld.Toml.Blank

/-! # Quoted text

Text in quotation marks is read in two passes: first the closing mark is found, then the escapes
in between are replaced.
-/
set_option autoImplicit false
namespace Handheld.Toml

def hexDigit? (c : Char) : Option Nat :=
  if c.isDigit then some (c.toNat - 48)
  else if 'a' ≤ c ∧ c ≤ 'f' then some (c.toNat - 87)
  else if 'A' ≤ c ∧ c ≤ 'F' then some (c.toNat - 55)
  else none

def charOfCode? (code : Nat) : Option Char :=
  if code.isValidChar then some (Char.ofNat code) else none

inductive Escape
  | absent
  | opened
  | digits (left code : Nat)
  | line
  | lines

def namedEscape? : Char → Option Char
  | 'b' => some '\x08'
  | 't' => some '\t'
  | 'n' => some '\n'
  | 'f' => some '\x0c'
  | 'r' => some '\r'
  | 'e' => some '\x1b'
  | '"' => some '"'
  | '\\' => some '\\'
  | _ => none

def codeLength? : Char → Option Nat
  | 'x' => some 2
  | 'u' => some 4
  | 'U' => some 8
  | _ => none

def unescape (multiline : Bool) : Escape → List Char → Option (List Char)
  | .absent, [] | .lines, [] => some []
  | .opened, [] | .digits _ _, [] | .line, [] => none
  | .absent, '\\' :: rest => unescape multiline .opened rest
  | .absent, '\r' :: '\n' :: rest =>
    if multiline then (unescape multiline .absent rest).map ('\n' :: ·) else none
  | .absent, c :: rest =>
    if isPlain c || (multiline && c == '\n') then
      (unescape multiline .absent rest).map (c :: ·)
    else none
  | .opened, '\r' :: '\n' :: rest => if multiline then unescape multiline .lines rest else none
  | .opened, c :: rest =>
    match namedEscape? c, codeLength? c with
    | some shown, _ => (unescape multiline .absent rest).map (shown :: ·)
    | none, some left => unescape multiline (.digits left 0) rest
    | none, none =>
      if multiline && c == '\n' then unescape multiline .lines rest
      else if multiline && isBlank c then unescape multiline .line rest
      else none
  | .digits left code, c :: rest =>
    match hexDigit? c with
    | none => none
    | some digit =>
      if left ≤ 1 then
        match charOfCode? (code * 16 + digit) with
        | none => none
        | some shown => (unescape multiline .absent rest).map (shown :: ·)
      else unescape multiline (.digits (left - 1) (code * 16 + digit)) rest
  | .line, '\r' :: '\n' :: rest => unescape multiline .lines rest
  | .line, c :: rest =>
    if c = '\n' then unescape multiline .lines rest
    else if isBlank c then unescape multiline .line rest
    else none
  | .lines, '\r' :: '\n' :: rest => unescape multiline .lines rest
  | .lines, '\\' :: rest => unescape multiline .opened rest
  | .lines, c :: rest =>
    if c = '\n' || isBlank c then unescape multiline .lines rest
    else if isPlain c then (unescape multiline .absent rest).map (c :: ·)
    else none

def untilMark (mark : Char) (escapes : Bool) : List Char → Option (List Char × List Char)
  | [] => none
  | '\\' :: c :: rest =>
    if escapes then
      (untilMark mark escapes rest).map fun (inner, rest) => ('\\' :: c :: inner, rest)
    else if c = mark then some (['\\'], rest)
    else (untilMark mark escapes rest).map fun (inner, rest) => ('\\' :: c :: inner, rest)
  | c :: rest =>
    if c = mark then some ([], rest)
    else (untilMark mark escapes rest).map fun (inner, rest) => (c :: inner, rest)

/-- Splits at the three closing marks of a text of several lines. Up to two more marks before
them belong to the text. -/
def untilMarks (mark : Char) (escapes : Bool) : List Char → Option (List Char × List Char)
  | [] | [_] | [_, _] => none
  | a :: b :: c :: rest =>
    if escapes && a == '\\' then
      (untilMarks mark escapes (c :: rest)).map fun (inner, rest) => (a :: b :: inner, rest)
    else if a = mark ∧ b = mark ∧ c = mark then
      let extra := (rest.takeWhile (· == mark)).take 2
      some (extra, rest.drop extra.length)
    else
      (untilMarks mark escapes (b :: c :: rest)).map fun (inner, rest) => (a :: inner, rest)

/-- A line end right behind the opening marks does not count. -/
def dropLineEnd : List Char → List Char
  | '\n' :: rest => rest
  | '\r' :: '\n' :: rest => rest
  | cs => cs

def isLiteral (multiline : Bool) : List Char → Bool
  | [] => true
  | '\r' :: '\n' :: rest => multiline && isLiteral multiline rest
  | c :: rest => (isPlain c || (multiline && c == '\n')) && isLiteral multiline rest

/-- The content between two marks: escapes stand only between double ones. -/
def content? (mark : Char) (multiline : Bool) (inner : List Char) : Option (List Char) :=
  if mark = '"' then unescape multiline .absent inner
  else if isLiteral multiline inner then some inner
  else none

def singleLine? (mark : Char) (cs : List Char) : Option (String × List Char) := do
  let (inner, rest) ← untilMark mark (mark == '"') cs
  let content ← content? mark false inner
  return (String.ofList content, rest)

def multiLine? (mark : Char) (cs : List Char) : Option (String × List Char) := do
  let (inner, rest) ← untilMarks mark (mark == '"') (dropLineEnd cs)
  let content ← content? mark true inner
  return (String.ofList content, rest)

def quoted? : List Char → Option (String × List Char)
  | '"' :: '"' :: '"' :: rest => multiLine? '"' rest
  | '\'' :: '\'' :: '\'' :: rest => multiLine? '\'' rest
  | '"' :: rest => singleLine? '"' rest
  | '\'' :: rest => singleLine? '\'' rest
  | _ => none

end Handheld.Toml

import Handheld.Toml.Quotation

/-! # Keys

A key is bare or quoted; a path is keys with dots between them, up to a fixed number.
-/
set_option autoImplicit false
namespace Handheld.Toml

def isBareKeyChar (c : Char) : Bool := c.isAlphanum || c == '_' || c == '-'

def key? (cs : List Char) : Option (String × List Char) :=
  match cs with
  | '"' :: rest => singleLine? '"' rest
  | '\'' :: rest => singleLine? '\'' rest
  | _ =>
    let bare := cs.takeWhile isBareKeyChar
    if bare.isEmpty then none else some (String.ofList bare, cs.dropWhile isBareKeyChar)

def maxKeys : Nat := 80

/-- A path of no more keys than allowed, and what follows it and its blanks. -/
def pathWithin : Nat → List Char → Option (List String × List Char)
  | 0, _ => none
  | allowed + 1, cs => do
    let (key, rest) ← key? (skipBlanks cs)
    match skipBlanks rest with
    | '.' :: rest =>
      let (keys, rest) ← pathWithin allowed rest
      return (key :: keys, rest)
    | rest => return ([key], rest)

def path? (cs : List Char) : Option (List String × List Char) := pathWithin maxKeys cs

end Handheld.Toml

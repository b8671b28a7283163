/-! # Blanks, line ends and comments

What may stand between the parts of a TOML document. A comment runs to the end of its line; a
carriage return is part of a line end or nothing at all.
-/
set_option autoImplicit false
namespace Handheld.Toml

def isBlank (c : Char) : Bool := c == ' ' || c == '\t'

def isPlain (c : Char) : Bool := c == '\t' || (' ' ≤ c && c != '\x7f')

def skipBlanks (cs : List Char) : List Char := cs.dropWhile isBlank

def skipLines (inComment : Bool) : List Char → Option (List Char)
  | [] => some []
  | '\n' :: rest => skipLines false rest
  | '\r' :: '\n' :: rest => skipLines false rest
  | c :: rest =>
    if inComment then if isPlain c then skipLines true rest else none
    else if c = '#' then skipLines true rest
    else if isBlank c then skipLines false rest
    else some (c :: rest)

/-- Behind the end of the line, before which only blanks and a comment may stand. -/
def endLine (inComment : Bool) : List Char → Option (List Char)
  | [] => some []
  | '\n' :: rest => some rest
  | '\r' :: '\n' :: rest => some rest
  | c :: rest =>
    if inComment then if isPlain c then endLine true rest else none
    else if c = '#' then endLine true rest
    else if isBlank c then endLine false rest
    else none

end Handheld.Toml

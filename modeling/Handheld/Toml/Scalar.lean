import Handheld.Toml.Blank
import Handheld.Toml.Moment

/-! # Truth values, numbers, dates and times

A scalar without quotation marks is read as a whole: its characters reach up to a line end or a mark
of the notation around it. Blanks between its words belong to it, which sets a date apart from a
time and is an error almost everywhere else.
-/
set_option autoImplicit false
namespace Handheld.Toml

def isScalarEnd (c : Char) : Bool :=
  ['\n', '\r', ',', '#', ']', '}', '[', '{', '='].contains c

def isQuotationMark (c : Char) : Bool := c == '"' || c == '\''

/-- The characters of a scalar, of which the blanks right before the text have been read, last one
first. Blanks behind the last word do not belong to it, and quoted text begins anew. -/
def takeScalar (blanks : List Char) : List Char → List Char
  | [] => []
  | c :: rest =>
    if isScalarEnd c then []
    else if isBlank c then takeScalar (c :: blanks) rest
    else if isQuotationMark c && !blanks.isEmpty then []
    else blanks.reverse ++ c :: takeScalar [] rest

def scalar? (cs : List Char) : Option (Value × List Char) :=
  let word := takeScalar [] cs
  let value :=
    if word = "true".toList then some (.boolean true)
    else if word = "false".toList then some (.boolean false)
    else
      match number? word with
      | some number => some number
      | none => if isMoment word then some .moment else none
  value.map (·, cs.drop word.length)

end Handheld.Toml

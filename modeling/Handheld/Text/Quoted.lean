import Handheld.Text.Hexadecimal
import Handheld.Text.Hidden

/-! # Quoted paths

A path in double quotation marks. Such marks and backslashes get a backslash, line ends and the tab
their letter, and characters that are not shown their code.
-/
set_option autoImplicit false
namespace Handheld.Quoted

def encodeChar (c : Char) : String :=
  if c = '\x00' then "\\0"
  else if c = '\t' then "\\t"
  else if c = '\n' then "\\n"
  else if c = '\r' then "\\r"
  else if c = '"' || c = '\\' then String.ofList ['\\', c]
  else if isHidden c then "\\u\x7b" ++ Hexadecimal.digits 1 c.toNat ++ "\x7d"
  else c.toString

def encode (text : String) : String :=
  "\"" ++ String.join (text.toList.map encodeChar) ++ "\""

end Handheld.Quoted

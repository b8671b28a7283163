/-! # Programs

A program is the bytes of a file under the name of the file. What the bytes mean is up to the
interpreter that plays them.
-/
set_option autoImplicit false
namespace Handheld

structure Program where
  name : String
  bytes : Array UInt8
  deriving DecidableEq

namespace Program

def lastPart (path : List Char) : List Char := (path.reverse.takeWhile (· != '/')).reverse

/-- A file name without its extension. A dot at the very start begins no extension. -/
def stem (fileName : List Char) : List Char :=
  match fileName.reverse.dropWhile (· != '.') with
  | [] | [_] => fileName
  | _ :: before => if fileName = ['.', '.'] then fileName else before.reverse

/-- The name of the program in a file; slashes at the end of the path do not count. -/
def nameOfPath (path : String) : String :=
  match lastPart (path.toList.reverse.dropWhile (· == '/')).reverse with
  | [] | ['.', '.'] => "<unknown>"
  | fileName => String.ofList (stem fileName)

end Program
end Handheld

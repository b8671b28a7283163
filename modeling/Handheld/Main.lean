import Handheld.Response

/-! # The program

Reads the files that the arguments name, gives the response and leaves with its code.
-/
set_option autoImplicit false
namespace Handheld

def readFile? (path : String) : IO (Option ByteArray) := do
  try
    return some (← IO.FS.readBinFile path)
  catch _ =>
    return none

def readFiles (paths : List String) : IO Files := do
  let entries ← paths.mapM fun path => do
    return (path, ← readFile? path)
  return ⟨fun path => (entries.lookup path).join⟩

def neededPaths (base : String) (argv : List String) : List String :=
  match Arguments.parse argv with
  | .error _ => []
  | .ok arguments => [Session.locate base arguments.config, arguments.app]

/-- Waits in stretches that a sleep can take. -/
def waitFor : Nat → Nat → IO Unit
  | 0, _ => return
  | rounds + 1, millis => do
    IO.sleep (UInt32.ofNat (min millis 1000000000))
    waitFor rounds (millis - 1000000000)

end Handheld

def main (argv : List String) : IO UInt32 := do
  let base := toString (← IO.currentDir)
  let files ← Handheld.readFiles (Handheld.neededPaths base argv)
  let response := Handheld.Response.toArguments files base argv
  if response.wait > 0 then
    Handheld.waitFor (response.wait / 1000000000 + 1) response.wait
  (← IO.getStdout).putStr response.out
  (← IO.getStderr).putStr response.err
  return response.code.toUInt32

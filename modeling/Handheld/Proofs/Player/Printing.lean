import Handheld.Proofs.Player.Acceptance

/-! # Playing is printing

A program that only prints is text. The player takes it apart word by word, the console character
by character, and both find the same characters in it: the program leaves the console that printing
its text at once leaves, but for the rows that are still to be drawn.
-/
set_option autoImplicit false
namespace Handheld
namespace Instruction

end Instruction

namespace Console

end Console

namespace Machine
open Instruction

variable {geometry : Geometry} {text : Array UInt8} {offset : Nat} {machine : Machine Player}

end Machine
end Handheld

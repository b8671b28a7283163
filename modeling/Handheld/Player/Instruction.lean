import Handheld.Console.Grid
import Handheld.Machine.Error

/-! # Instructions of the text player

A program of the text player is text with control bytes in it. Decoding reads one instruction at
an offset and says where the next one begins.
-/
set_option autoImplicit false
namespace Handheld

inductive Instruction
  | finish
  | locate (row col : UInt8)
  | setFont (code : UInt8)
  | scroll
  | clear
  | print (code : UInt16)
  deriving DecidableEq

namespace Instruction

def fetch (text : Array UInt8) (offset : Nat) : Except MachineError UInt8 :=
  match text[offset]? with
  | some value => .ok value
  | none => .error (.badProgram (.cutOff offset))

def decode (text : Array UInt8) (offset : Nat) : Except MachineError (Instruction × Nat) := do
  let opcode ← fetch text offset
  if opcode = 0x00 then return (finish, offset + 1)
  else if opcode = 0x01 then
    let row ← fetch text (offset + 1)
    let col ← fetch text (offset + 2)
    return (locate row col, offset + 3)
  else if opcode = 0x02 then
    let code ← fetch text (offset + 1)
    return (setFont code, offset + 2)
  else if opcode = 0x03 then return (scroll, offset + 1)
  else if opcode = 0x0c then return (clear, offset + 1)
  else if 0x80 ≤ opcode then
    let follower ← fetch text (offset + 1)
    return (print (wideCode opcode follower), offset + 2)
  else if opcode < 0x20 ∧ opcode ≠ 0x0a ∧ opcode ≠ 0x0d then
    throw (.illegalInstruction opcode (UInt32.ofNat offset))
  else return (print (UInt16.ofNat opcode.toNat), offset + 1)

end Instruction
end Handheld

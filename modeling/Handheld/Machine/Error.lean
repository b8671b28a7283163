import Handheld.Memory.Error

/-! # Machine errors

Why a program could not be loaded or a step not be made.
-/
set_option autoImplicit false
namespace Handheld

inductive Defect
  /-- The program ends in the middle of an instruction; the offset is that of the missing byte. -/
  | cutOff (offset : Nat)
  | other (note : String)
  deriving DecidableEq

def Defect.message : Defect → String
  | cutOff offset => s!"程序在 {Hexadecimal.number offset} 处意外结束"
  | other note => note

inductive MachineError
  | memory (e : MemoryError)
  | illegalInstruction (opcode : UInt8) (addr : UInt32)
  | badProgram (defect : Defect)
  | notLoaded
  deriving DecidableEq

namespace MachineError

def isOutOfRange : MachineError → Bool
  | memory e => e.isOutOfRange
  | _ => false

def message : MachineError → String
  | memory e => s!"内存错误: {e.message}"
  | illegalInstruction opcode addr =>
    s!"非法指令: {Hexadecimal.byte opcode} at {Hexadecimal.number addr.toNat}"
  | badProgram defect => s!"程序格式错误: {defect.message}"
  | notLoaded => "没有已加载的程序"

end MachineError
end Handheld

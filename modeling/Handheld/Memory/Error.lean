import Handheld.Memory.Kind
import Handheld.Memory.Window
import Handheld.Text.Hexadecimal

/-! # Memory errors

A layout is refused for its configuration; an access is refused for its address.
-/
set_option autoImplicit false
namespace Handheld

def OutsideRegion.message (e : OutsideRegion) : String :=
  s!"区域访问越界: 地址 {Hexadecimal.number e.addr.toNat}, 区域 [{Hexadecimal.number e.base.toNat}, " ++
    s!"{Hexadecimal.number e.base.toNat}+{Hexadecimal.number e.size})"

inductive MemoryError
  | zeroSize (kind : RegionKind)
  | addressOverflow (kind : RegionKind) (base size : Nat)
  | unmapped (addr : UInt32)
  | region (e : OutsideRegion)
  | missing (kind : RegionKind)
  /-- The end of a region is a sum beyond 64 bits. No caller gets to see this: the program stops. -/
  | sumOverflow (base size : Nat)
  deriving DecidableEq

namespace MemoryError

def isConfiguration : MemoryError → Bool
  | zeroSize _ | addressOverflow _ _ _ | missing _ => true
  | unmapped _ | region _ | sumOverflow _ _ => false

def isOutOfRange : MemoryError → Bool
  | unmapped _ | region _ => true
  | zeroSize _ | addressOverflow _ _ _ | missing _ | sumOverflow _ _ => false

def stopsProgram : MemoryError → Bool
  | sumOverflow _ _ => true
  | zeroSize _ | addressOverflow _ _ _ | unmapped _ | region _ | missing _ => false

def message : MemoryError → String
  | zeroSize kind => s!"区域配置错误: {kind.name} 区域大小为 0"
  | addressOverflow kind base size =>
    s!"区域配置错误: {kind.name} 区域 [{Hexadecimal.number base}, " ++
      s!"{Hexadecimal.number base}+{Hexadecimal.number size}) 超出 32 位地址空间"
  | unmapped addr => s!"内存访问越界: 地址 {Hexadecimal.number addr.toNat} 不属于任何区域"
  | region e => s!"区域错误: {e.message}"
  | missing kind => s!"未安装 {kind.name} 区域"
  | sumOverflow _ _ => "attempt to add with overflow"

end MemoryError
end Handheld

import Handheld.Console.Basic
import Handheld.Memory.Store

/-! # The workspace of a program

What a running program can reach: the address space and the console. The text page of the console
is at the same time the storage of the text region.
-/
set_option autoImplicit false
namespace Handheld

structure Workspace where
  space : AddressSpace
  console : Console

namespace Workspace

def store (work : Workspace) : Store := ⟨work.space, work.console.pages⟩

/-- Works on the memory; what is written to the text region is on the console. -/
def onStore {ε : Type} (act : Store → Attempt ε Store) : Workspace → Attempt ε Workspace
  | ⟨space, console⟩ =>
    (act ⟨space, console.pages⟩).map fun store => ⟨store.space, console.withPages store.pages⟩

def onConsole (act : Console → Console) : Workspace → Workspace
  | ⟨space, console⟩ => ⟨space, act console⟩

def clearAll : Workspace → Workspace
  | ⟨space, console⟩ =>
    let store := Store.clearAll ⟨space, console.pages⟩
    ⟨store.space, console.withPages store.pages⟩

end Workspace
end Handheld

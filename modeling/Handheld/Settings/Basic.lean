import Handheld.Machine.Basic

/-! # Settings

What a configuration decides: the screen, the sizes of memory, the pace of the worker and how many
events are kept.
-/
set_option autoImplicit false
namespace Handheld

structure MemorySizes where
  runtime : Nat
  string : Nat
  deriving DecidableEq

/-- How the worker goes about its steps; times are in micro- and milliseconds. -/
structure Pace where
  yieldInterval : Nat
  yieldMicros : Nat
  idleMillis : Nat
  exitOnFinish : Bool
  deriving DecidableEq

structure Settings where
  screen : PixelSize
  memory : MemorySizes
  pace : Pace
  eventSlots : Nat
  deriving DecidableEq

namespace Settings

def standardScreen : PixelSize := ⟨160, 80⟩
def standardMemory : MemorySizes := ⟨0x6000, 0x400⟩
def standardPace : Pace := ⟨100, 0, 10, false⟩
def standardEventSlots : Nat := 16

def standard : Settings := ⟨standardScreen, standardMemory, standardPace, standardEventSlots⟩

def geometry (settings : Settings) : Geometry :=
  ⟨settings.screen, settings.memory.runtime, settings.memory.string⟩

end Settings
end Handheld

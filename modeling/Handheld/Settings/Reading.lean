import Handheld.Settings.Basic
import Handheld.Toml.Document

/-! # Reading settings

A configuration is a TOML document with a table for each group of settings. Keys it does not know
mean nothing to it. A group may also be written as an array of its values in order, and a date or a
time in its place counts as a table without any of its names.
-/
set_option autoImplicit false
namespace Handheld.Settings

/-- The values for some names in a table, or at their places in an array. -/
def group? (names : List String) : Toml.Value → Option (List (Option Toml.Value))
  | .table fields =>
    if fields.all fun (key, value) => names.contains key || value.readable then
      some (names.map fun name => fields.lookup name)
    else none
  | .array items => some ((List.range names.length).map fun i => items[i]?)
  | .moment => some (names.map fun _ => none)
  | _ => none

/-- A number from zero up to a limit, which is not part of the range. -/
def natural? (limit : Nat) : Toml.Value → Option Nat
  | .integer n => if 0 ≤ n ∧ n < limit then some n.toNat else none
  | _ => none

def word? : Toml.Value → Option Nat := natural? 0x100000000

def longWord? : Toml.Value → Option Nat := natural? 0x10000000000000000

def boolean? : Toml.Value → Option Bool
  | .boolean b => some b
  | _ => none

def orElse {α : Type} (read : Toml.Value → Option α) (standard : α) : Option Toml.Value → Option α
  | some value => read value
  | none => some standard

def screen? (value : Toml.Value) : Option PixelSize :=
  match group? ["width", "height"] value with
  | some [some width, some height] => do
    return ⟨← word? width, ← word? height⟩
  | _ => none

def memory? (value : Toml.Value) : Option MemorySizes :=
  match group? ["runtime_size", "string_size"] value with
  | some [some runtime, some string] => do
    return ⟨← longWord? runtime, ← longWord? string⟩
  | _ => none

def pace? (value : Toml.Value) : Option Pace :=
  match group? ["yield_interval", "yield_micros", "idle_millis", "exit_on_finish"] value with
  | some [interval, micros, millis, exit] => do
    return ⟨← orElse longWord? standardPace.yieldInterval interval,
      ← orElse longWord? standardPace.yieldMicros micros,
      ← orElse longWord? standardPace.idleMillis millis,
      ← orElse boolean? standardPace.exitOnFinish exit⟩
  | _ => none

def eventSlots? (value : Toml.Value) : Option Nat :=
  match group? ["event_list_size"] value with
  | some [slots] => orElse longWord? standardEventSlots slots
  | _ => none

def ofValue? (value : Toml.Value) : Option Settings :=
  match group? ["screen", "memory", "driver", "debug"] value with
  | some [screen, memory, pace, debug] => do
    return ⟨← orElse screen? standardScreen screen, ← orElse memory? standardMemory memory,
      ← orElse pace? standardPace pace, ← orElse eventSlots? standardEventSlots debug⟩
  | _ => none

def parse? (document : String) : Option Settings := (Toml.parse? document).bind ofValue?

end Handheld.Settings

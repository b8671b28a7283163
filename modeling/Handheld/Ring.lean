/-! # Rings

A ring keeps the newest items in a fixed number of slots: writing to a full ring gives up the
oldest item. The live slots go from first round the end of the array to the one before next. In a
full ring first and next meet, as they do in an empty one, and a flag tells the two apart.
-/
set_option autoImplicit false
namespace Handheld

structure Ring (α : Type) where
  slots : Array α
  first : Nat
  next : Nat
  full : Bool
  first_lt : first < slots.size
  next_lt : next < slots.size
  meet_of_full : full = true → first = next

namespace Ring
variable {α : Type}

/-- A ring has at least one slot, whatever size is asked for. -/
def ofSize [Inhabited α] (size : Nat) : Ring α where
  slots := Array.replicate (max size 1) default
  first := 0
  next := 0
  full := false
  first_lt := by
    rw [Array.size_replicate]
    omega
  next_lt := by
    rw [Array.size_replicate]
    omega
  meet_of_full := nofun

def capacity (ring : Ring α) : Nat := ring.slots.size

theorem capacity_pos (ring : Ring α) : 0 < ring.capacity :=
  Nat.lt_of_le_of_lt (Nat.zero_le _) ring.first_lt

def isEmpty (ring : Ring α) : Bool := !ring.full && ring.first == ring.next

def isFull (ring : Ring α) : Bool := ring.full

/-- The way from first to next, which is once round in a full ring. -/
def count (ring : Ring α) : Nat :=
  if ring.full then ring.capacity
  else (ring.next + ring.capacity - ring.first) % ring.capacity

/-- The slot that holds the item of a given age, counted from the oldest. -/
def slot (ring : Ring α) (age : Nat) : Nat := (ring.first + age) % ring.capacity

theorem slot_lt (ring : Ring α) (age : Nat) : ring.slot age < ring.slots.size :=
  Nat.mod_lt _ ring.capacity_pos

def get (ring : Ring α) (age : Nat) : α :=
  have := ring.slot_lt age
  ring.slots[ring.slot age]

def toList (ring : Ring α) : List α := (List.range ring.count).map ring.get

def after (ring : Ring α) (slot : Nat) : Nat := (slot + 1) % ring.capacity

theorem after_lt (ring : Ring α) (slot : Nat) : ring.after slot < ring.slots.size :=
  Nat.mod_lt _ ring.capacity_pos

/-- The new item takes the slot at next, which in a full ring is the oldest one's. -/
def push (ring : Ring α) (item : α) : Ring α where
  slots := ring.slots.set ring.next item ring.next_lt
  first := if ring.full then ring.after ring.next else ring.first
  next := ring.after ring.next
  full := ring.full || ring.after ring.next == ring.first
  first_lt := by
    have := ring.after_lt ring.next
    have := ring.first_lt
    split <;> simpa
  next_lt := by
    rw [Array.size_set]
    exact ring.after_lt ring.next
  meet_of_full := by
    intro hFull
    split
    · rfl
    · rename_i hRoom
      rw [Bool.eq_false_iff.mpr hRoom, Bool.false_or, beq_iff_eq] at hFull
      exact hFull.symm

def pop? (ring : Ring α) : Option (α × Ring α) :=
  if ring.isEmpty then none
  else
    have := ring.first_lt
    some (ring.slots[ring.first], { ring with
      first := ring.after ring.first
      full := false
      first_lt := ring.after_lt ring.first
      meet_of_full := nofun })

def last? (ring : Ring α) : Option α :=
  if ring.isEmpty then none
  else
    have : (ring.next + ring.capacity - 1) % ring.capacity < ring.slots.size :=
      Nat.mod_lt _ ring.capacity_pos
    some ring.slots[(ring.next + ring.capacity - 1) % ring.capacity]

def clear (ring : Ring α) : Ring α where
  slots := ring.slots
  first := 0
  next := 0
  full := false
  first_lt := ring.capacity_pos
  next_lt := ring.capacity_pos
  meet_of_full := nofun

def takeOut (ring : Ring α) : Nat → List α × Ring α
  | 0 => ([], ring)
  | n + 1 =>
    match ring.pop? with
    | none => ([], ring)
    | some (item, rest) =>
      let (items, rest) := rest.takeOut n
      (item :: items, rest)

def drain (ring : Ring α) : List α × Ring α := ring.takeOut ring.count

end Ring
end Handheld

import Handheld.Ring
import Mathlib.Data.Nat.Basic

/-! # Rings as queues

What a ring holds is a list, and each operation of the ring is one of a queue of bounded length:
what is pushed comes last, what is taken out comes first, and a queue that has reached its bound
gives up its first item for a new one.
-/
set_option autoImplicit false
namespace Handheld
namespace Ring

variable {α : Type} {ring rest : Ring α} {item : α} {age older : Nat}

theorem first_lt_capacity (ring : Ring α) : ring.first < ring.capacity := ring.first_lt

theorem next_lt_capacity (ring : Ring α) : ring.next < ring.capacity := ring.next_lt

theorem mod_of_lt_twice {place size : Nat} (h : place < 2 * size) :
    place % size = if place < size then place else place - size := by
  split
  · rename_i hBelow
    exact Nat.mod_eq_of_lt hBelow
  · rename_i hBeyond
    rw [Nat.mod_eq_sub_mod (Nat.le_of_not_lt hBeyond), Nat.mod_eq_of_lt (by omega)]

theorem slot_eq (h : age ≤ ring.capacity) :
    ring.slot age =
      if ring.first + age < ring.capacity then ring.first + age
      else ring.first + age - ring.capacity := by
  have hFirst := ring.first_lt_capacity
  exact mod_of_lt_twice (by omega)

theorem count_of_full (h : ring.full = true) : ring.count = ring.capacity := if_pos h

theorem count_of_room (h : ring.full = false) :
    ring.count =
      if ring.first ≤ ring.next then ring.next - ring.first
      else ring.next + ring.capacity - ring.first := by
  have hFirst := ring.first_lt_capacity
  have hNext := ring.next_lt_capacity
  rw [count, h, if_neg Bool.false_ne_true, mod_of_lt_twice (by omega)]
  split
  · rw [if_neg (by omega)]
  · rw [if_pos (by omega)]
    omega

theorem count_lt_of_room (h : ring.full = false) : ring.count < ring.capacity := by
  have hFirst := ring.first_lt_capacity
  have hNext := ring.next_lt_capacity
  rw [count_of_room h]
  split <;> omega

theorem count_le (ring : Ring α) : ring.count ≤ ring.capacity := by
  cases hFull : ring.full with
  | true => exact Nat.le_of_eq (count_of_full hFull)
  | false => exact Nat.le_of_lt (count_lt_of_room hFull)

theorem isFull_iff : ring.isFull = true ↔ ring.count = ring.capacity := by
  constructor
  · exact count_of_full
  · intro hAll
    by_contra hRoom
    have hLess := count_lt_of_room (Bool.eq_false_iff.mpr hRoom)
    omega

/-- Where first and next meet the ring is full or empty, and the flag says which. -/
theorem isEmpty_iff : ring.isEmpty = true ↔ ring.count = 0 := by
  have hFirst := ring.first_lt_capacity
  have hNext := ring.next_lt_capacity
  cases hFull : ring.full with
  | true =>
    rw [isEmpty, hFull, count_of_full hFull]
    exact ⟨nofun, by omega⟩
  | false =>
    rw [isEmpty, hFull, Bool.not_false, Bool.true_and, beq_iff_eq, count_of_room hFull]
    split <;> omega

theorem slot_count (ring : Ring α) : ring.slot ring.count = ring.next := by
  have hFirst := ring.first_lt_capacity
  have hNext := ring.next_lt_capacity
  cases hFull : ring.full with
  | true =>
    have hMeet : ring.first = ring.next := ring.meet_of_full hFull
    rw [count_of_full hFull, slot_eq (Nat.le_refl _)]
    split <;> omega
  | false =>
    rw [slot_eq (Nat.le_of_lt (count_lt_of_room hFull)), count_of_room hFull]
    split
    all_goals split <;> omega

theorem slot_ne_next (hOld : ring.full = true → 0 < age) (h : age < ring.count) :
    ring.slot age ≠ ring.next := by
  have hFirst := ring.first_lt_capacity
  have hNext := ring.next_lt_capacity
  cases hFull : ring.full with
  | true =>
    have hMeet : ring.first = ring.next := ring.meet_of_full hFull
    have hPositive : 0 < age := hOld hFull
    rw [count_of_full hFull] at h
    rw [slot_eq (Nat.le_of_lt h)]
    split <;> omega
  | false =>
    have hLess := count_lt_of_room hFull
    rw [count_of_room hFull] at h hLess
    rw [slot_eq (by omega)]
    split at h
    all_goals split <;> omega

theorem getElem?_slot (ring : Ring α) (age : Nat) :
    ring.slots[ring.slot age]? = some (ring.get age) :=
  Array.getElem?_eq_getElem (ring.slot_lt age)

theorem length_toList (ring : Ring α) : ring.toList.length = ring.count := by
  rw [toList, List.length_map, List.length_range]

section Push
variable (ring : Ring α) (item : α)

theorem slots_push : (ring.push item).slots = ring.slots.set ring.next item ring.next_lt := rfl

theorem first_push :
    (ring.push item).first = if ring.full then ring.after ring.next else ring.first := rfl

theorem next_push : (ring.push item).next = ring.after ring.next := rfl

theorem full_push :
    (ring.push item).full = (ring.full || ring.after ring.next == ring.first) := rfl

theorem capacity_push : (ring.push item).capacity = ring.capacity :=
  Array.size_set ring.next_lt

variable {ring item}

theorem get_push_of_eq (h : (ring.push item).slot age = ring.next) :
    (ring.push item).get age = item := by
  have hSlot := (ring.push item).getElem?_slot age
  rw [h, slots_push, Array.getElem?_set_self ring.next_lt] at hSlot
  exact (Option.some.inj hSlot).symm

theorem get_push_of_ne (h : (ring.push item).slot age = ring.slot older)
    (hOther : ring.slot older ≠ ring.next) : (ring.push item).get age = ring.get older := by
  have hSlot := (ring.push item).getElem?_slot age
  rw [h, slots_push, Array.getElem?_set_ne ring.next_lt hOther.symm, getElem?_slot] at hSlot
  exact (Option.some.inj hSlot).symm

end Push

/-- A ring that begins behind the oldest item of another one holds each item at an age less. -/
theorem slot_of_first (hFirst : rest.first = ring.after ring.first)
    (hCapacity : rest.capacity = ring.capacity) (age : Nat) :
    rest.slot age = ring.slot (age + 1) := by
  rw [slot, slot, hFirst, hCapacity, after, Nat.mod_add_mod, Nat.add_assoc, Nat.add_comm 1 age]

section Room
variable (h : ring.full = false) (item : α)
include h

theorem first_push_of_room : (ring.push item).first = ring.first := by
  rw [first_push, h, if_neg Bool.false_ne_true]

theorem slot_push_of_room (age : Nat) : (ring.push item).slot age = ring.slot age := by
  rw [slot, slot, capacity_push, first_push_of_room h]

theorem count_push_of_room : (ring.push item).count = ring.count + 1 := by
  have hFirst := ring.first_lt_capacity
  have hNext := ring.next_lt_capacity
  have hAfter : ring.after ring.next =
      if ring.next + 1 < ring.capacity then ring.next + 1 else ring.next + 1 - ring.capacity :=
    mod_of_lt_twice (by omega)
  have hLess := count_lt_of_room h
  rw [count_of_room h] at hLess ⊢
  cases hMeet : ring.after ring.next == ring.first with
  | true =>
    have hFull : (ring.push item).full = true := by rw [full_push, hMeet, Bool.or_true]
    rw [beq_iff_eq] at hMeet
    rw [count_of_full hFull, capacity_push]
    split at hAfter
    all_goals split <;> omega
  | false =>
    have hRoom : (ring.push item).full = false := by rw [full_push, h, hMeet, Bool.or_false]
    rw [beq_eq_false_iff_ne] at hMeet
    rw [count_of_room hRoom, capacity_push, first_push_of_room h, next_push]
    split at hAfter
    all_goals split <;> split <;> omega

theorem toList_push_of_room : (ring.push item).toList = ring.toList ++ [item] := by
  rw [toList, count_push_of_room h, List.range_succ, List.map_append, List.map_singleton]
  have hOlder : (List.range ring.count).map (ring.push item).get = ring.toList := by
    refine List.map_congr_left fun age hAge => ?_
    have hOther : ring.slot age ≠ ring.next := by
      refine slot_ne_next (fun hFull => ?_) (List.mem_range.mp hAge)
      cases h.symm.trans hFull
    exact get_push_of_ne (slot_push_of_room h item age) hOther
  have hLast : (ring.push item).slot ring.count = ring.next := by
    rw [slot_push_of_room h, slot_count]
  rw [hOlder, get_push_of_eq hLast]

end Room

section Full
variable (h : ring.full = true) (item : α)
include h

theorem slot_push_of_full (age : Nat) : (ring.push item).slot age = ring.slot (age + 1) := by
  refine slot_of_first ?_ (capacity_push ring item) age
  rw [first_push, h, if_pos rfl, ring.meet_of_full h]

theorem count_push_of_full : (ring.push item).count = ring.count := by
  have hStill : (ring.push item).full = true := by rw [full_push, h, Bool.true_or]
  rw [count_of_full hStill, count_of_full h, capacity_push]

end Full

theorem toList_of_count {newer : Nat} (h : ring.count = newer + 1) :
    ring.toList = ring.get 0 :: (List.range newer).map fun age => ring.get (age + 1) := by
  rw [toList, h, List.range_succ_eq_map, List.map_cons, List.map_map]
  rfl

theorem toList_push_of_full (h : ring.full = true) (item : α) :
    (ring.push item).toList = ring.toList.tail ++ [item] := by
  obtain ⟨newer, hCount⟩ : ∃ newer, ring.count = newer + 1 :=
    Nat.exists_eq_succ_of_ne_zero (by
      rw [count_of_full h]
      exact Nat.ne_of_gt ring.capacity_pos)
  have hOlder : (List.range newer).map (ring.push item).get =
      (List.range newer).map fun age => ring.get (age + 1) := by
    refine List.map_congr_left fun age hAge => ?_
    have hBelow : age + 1 < ring.count := by
      rw [hCount]
      exact Nat.succ_lt_succ (List.mem_range.mp hAge)
    exact get_push_of_ne (slot_push_of_full h item age)
      (slot_ne_next (fun _ => Nat.succ_pos age) hBelow)
  have hLast : (ring.push item).slot newer = ring.next := by
    rw [slot_push_of_full h, ← hCount, slot_count]
  rw [toList_of_count hCount, List.tail_cons, toList, count_push_of_full h, hCount,
    List.range_succ, List.map_append, List.map_singleton, hOlder, get_push_of_eq hLast]

theorem toList_push (ring : Ring α) (item : α) :
    (ring.push item).toList =
      (if ring.toList.length = ring.capacity then ring.toList.tail else ring.toList) ++ [item] := by
  rw [length_toList]
  cases hFull : ring.full with
  | true =>
    rw [if_pos (count_of_full hFull)]
    exact toList_push_of_full hFull item
  | false =>
    rw [if_neg (Nat.ne_of_lt (count_lt_of_room hFull))]
    exact toList_push_of_room hFull item

theorem toList_of_isEmpty (h : ring.isEmpty = true) : ring.toList = [] := by
  rw [toList, isEmpty_iff.mp h, List.range_zero, List.map_nil]

theorem getElem?_first (ring : Ring α) : ring.slots[ring.first]? = some (ring.get 0) := by
  have hSlot : ring.slot 0 = ring.first := Nat.mod_eq_of_lt ring.first_lt
  rw [← getElem?_slot, hSlot]

section Pop
variable (hSlots : rest.slots = ring.slots) (hFirst : rest.first = ring.after ring.first)
  (hNext : rest.next = ring.next) (hRoom : rest.full = false) (hSome : ring.isEmpty = false)
include hSlots hFirst hNext hRoom hSome

theorem count_eq_succ_of_rest : ring.count = rest.count + 1 := by
  have hFirstLt := ring.first_lt_capacity
  have hNextLt := ring.next_lt_capacity
  have hCapacity : rest.capacity = ring.capacity := congrArg Array.size hSlots
  have hAfter : ring.after ring.first =
      if ring.first + 1 < ring.capacity then ring.first + 1 else ring.first + 1 - ring.capacity :=
    mod_of_lt_twice (by omega)
  rw [count_of_room hRoom, hFirst, hNext, hCapacity]
  cases hFull : ring.full with
  | true =>
    have hMeet : ring.first = ring.next := ring.meet_of_full hFull
    rw [count_of_full hFull]
    split at hAfter
    all_goals split <;> omega
  | false =>
    have hApart : ring.first ≠ ring.next := by
      intro hMeet
      rw [isEmpty, hFull, hMeet, beq_self_eq_true] at hSome
      cases hSome
    rw [count_of_room hFull]
    split at hAfter
    all_goals split <;> split <;> omega

theorem toList_of_rest : ring.toList = ring.get 0 :: rest.toList := by
  have hCapacity : rest.capacity = ring.capacity := congrArg Array.size hSlots
  rw [toList_of_count (count_eq_succ_of_rest hSlots hFirst hNext hRoom hSome), toList]
  refine congrArg _ (List.map_congr_left fun age _ => ?_)
  have hGet := rest.getElem?_slot age
  rw [hSlots, slot_of_first hFirst hCapacity, getElem?_slot] at hGet
  exact Option.some.inj hGet

end Pop

theorem pop?_eq (ring : Ring α) :
    ring.pop? = none ∧ ring.toList = [] ∨
      ∃ item rest, ring.pop? = some (item, rest) ∧ ring.toList = item :: rest.toList ∧
        rest.capacity = ring.capacity := by
  rw [pop?]
  cases hEmpty : ring.isEmpty with
  | true => exact .inl ⟨rfl, toList_of_isEmpty hEmpty⟩
  | false =>
    refine .inr ⟨_, _, rfl, ?_, rfl⟩
    have hFirst := ring.getElem?_first
    rw [Array.getElem?_eq_getElem ring.first_lt, Option.some_inj] at hFirst
    rw [hFirst]
    exact toList_of_rest rfl rfl rfl rfl hEmpty

theorem slot_newest {newest : Nat} (h : ring.count = newest + 1) :
    (ring.next + ring.capacity - 1) % ring.capacity = ring.slot newest := by
  have hFirst := ring.first_lt_capacity
  have hNext := ring.next_lt_capacity
  have hCount := ring.count_le
  have hBehind := ring.slot_count
  rw [h] at hCount hBehind
  rw [slot_eq hCount] at hBehind
  rw [slot_eq (by omega), mod_of_lt_twice (by omega)]
  split at hBehind
  all_goals split <;> split <;> omega

theorem last?_eq (ring : Ring α) : ring.last? = ring.toList.getLast? := by
  rw [last?]
  cases hEmpty : ring.isEmpty with
  | true =>
    rw [toList_of_isEmpty hEmpty]
    rfl
  | false =>
    obtain ⟨newest, hCount⟩ : ∃ newest, ring.count = newest + 1 :=
      Nat.exists_eq_succ_of_ne_zero fun hNone =>
        Bool.eq_false_iff.mp hEmpty (isEmpty_iff.mpr hNone)
    rw [toList, hCount, List.range_succ, List.map_append, List.map_singleton,
      List.getLast?_concat, ← getElem?_slot, ← slot_newest hCount]
    exact (Array.getElem?_eq_getElem _).symm

theorem toList_clear (ring : Ring α) : ring.clear.toList = [] := toList_of_isEmpty rfl

theorem toList_ofSize [Inhabited α] (size : Nat) : (ofSize size : Ring α).toList = [] :=
  toList_of_isEmpty rfl

theorem takeOut_eq {n : Nat} (h : ring.toList.length ≤ n) :
    (ring.takeOut n).1 = ring.toList ∧ (ring.takeOut n).2.toList = [] ∧
      (ring.takeOut n).2.capacity = ring.capacity := by
  induction n generalizing ring with
  | zero =>
    have hNone : ring.toList = [] := List.length_eq_zero_iff.mp (Nat.le_zero.mp h)
    exact ⟨hNone.symm, hNone, rfl⟩
  | succ n ih =>
    rw [takeOut]
    obtain ⟨hPop, hNone⟩ | ⟨item, rest, hPop, hList, hCapacity⟩ := ring.pop?_eq
    · rw [hPop]
      exact ⟨hNone.symm, hNone, rfl⟩
    · rw [hPop]
      rw [hList, List.length_cons] at h
      obtain ⟨hItems, hLeft, hSame⟩ := ih (Nat.le_of_succ_le_succ h)
      exact ⟨by rw [hList, ← hItems], hLeft, hSame.trans hCapacity⟩

theorem drain_eq (ring : Ring α) :
    ring.drain.1 = ring.toList ∧ ring.drain.2.toList = [] ∧
      ring.drain.2.capacity = ring.capacity :=
  takeOut_eq (Nat.le_of_eq ring.length_toList)

theorem isEmpty_eq (ring : Ring α) : ring.isEmpty = ring.toList.isEmpty := by
  rw [Bool.eq_iff_iff, isEmpty_iff, List.isEmpty_iff, ← List.length_eq_zero_iff, length_toList]

theorem isFull_eq (ring : Ring α) :
    ring.isFull = decide (ring.toList.length = ring.capacity) := by
  rw [Bool.eq_iff_iff, isFull_iff, decide_eq_true_iff, length_toList]

end Ring

inductive RingCall (α : Type)
  | push (item : α)
  | pop
  | drain
  | last
  | clear

inductive RingAnswer (α : Type)
  | nothing
  | item (found : Option α)
  | items (found : List α)

namespace RingCall
variable {α σ : Type}

def onRing (call : RingCall α) (ring : Ring α) : RingAnswer α × Ring α :=
  match call with
  | push item => (.nothing, ring.push item)
  | pop =>
    match ring.pop? with
    | none => (.item none, ring)
    | some (item, rest) => (.item (some item), rest)
  | drain => (.items ring.drain.1, ring.drain.2)
  | last => (.item ring.last?, ring)
  | clear => (.nothing, ring.clear)

def onQueue (capacity : Nat) (call : RingCall α) (queue : List α) : RingAnswer α × List α :=
  match call with
  | push item => (.nothing, (if queue.length = capacity then queue.tail else queue) ++ [item])
  | pop => (.item queue.head?, queue.tail)
  | drain => (.items queue, [])
  | last => (.item queue.getLast?, queue)
  | clear => (.nothing, [])

def replay (answer : RingCall α → σ → RingAnswer α × σ) :
    List (RingCall α) → σ → List (RingAnswer α) × σ
  | [], state => ([], state)
  | call :: rest, state =>
    let (first, state) := answer call state
    let (answers, state) := replay answer rest state
    (first :: answers, state)

theorem onRing_eq (call : RingCall α) (ring : Ring α) :
    (call.onRing ring).1 = (call.onQueue ring.capacity ring.toList).1 ∧
      (call.onRing ring).2.toList = (call.onQueue ring.capacity ring.toList).2 ∧
      (call.onRing ring).2.capacity = ring.capacity := by
  cases call with
  | push item => exact ⟨rfl, ring.toList_push item, ring.capacity_push item⟩
  | pop =>
    rw [onRing, onQueue]
    obtain ⟨hPop, hNone⟩ | ⟨item, rest, hPop, hList, hCapacity⟩ := ring.pop?_eq
    · rw [hPop, hNone]
      exact ⟨rfl, rfl, rfl⟩
    · rw [hPop, hList]
      exact ⟨rfl, rfl, hCapacity⟩
  | drain =>
    obtain ⟨hItems, hLeft, hCapacity⟩ := ring.drain_eq
    exact ⟨congrArg RingAnswer.items hItems, hLeft, hCapacity⟩
  | last => exact ⟨congrArg RingAnswer.item ring.last?_eq, rfl, rfl⟩
  | clear => exact ⟨rfl, ring.toList_clear, rfl⟩

theorem replay_onRing (calls : List (RingCall α)) (ring : Ring α) :
    (replay onRing calls ring).1 = (replay (onQueue ring.capacity) calls ring.toList).1 ∧
      (replay onRing calls ring).2.toList =
        (replay (onQueue ring.capacity) calls ring.toList).2 ∧
      (replay onRing calls ring).2.capacity = ring.capacity := by
  induction calls generalizing ring with
  | nil => exact ⟨rfl, rfl, rfl⟩
  | cons call rest ih =>
    obtain ⟨hFirst, hList, hCapacity⟩ := call.onRing_eq ring
    obtain ⟨hAnswers, hLeft, hSame⟩ := ih (call.onRing ring).2
    rw [hList, hCapacity] at hAnswers hLeft
    exact ⟨congrArg₂ List.cons hFirst hAnswers, hLeft, hSame.trans hCapacity⟩

end RingCall

/-- Whatever is asked of a ring, it answers as a queue of its capacity, which is the size that it
was made with and at least one, and it measures itself as that queue. -/
theorem Ring.queue_of_calls {α : Type} [Inhabited α] (size : Nat) (calls : List (RingCall α)) :
    let run := RingCall.replay RingCall.onRing calls (Ring.ofSize size)
    let queue := RingCall.replay (RingCall.onQueue (max size 1)) calls []
    run.1 = queue.1 ∧ run.2.toList = queue.2 ∧ run.2.capacity = max size 1 ∧
      run.2.count = queue.2.length ∧ run.2.isEmpty = queue.2.isEmpty ∧
      run.2.isFull = decide (queue.2.length = max size 1) := by
  intro run queue
  have hStart : (Ring.ofSize size : Ring α).toList = [] := Ring.toList_ofSize size
  have hSize : (Ring.ofSize size : Ring α).capacity = max size 1 := Array.size_replicate
  obtain ⟨hAnswers, hList, hCapacity⟩ := RingCall.replay_onRing calls (Ring.ofSize size : Ring α)
  rw [hStart, hSize] at hAnswers hList
  rw [hSize] at hCapacity
  refine ⟨hAnswers, hList, hCapacity, ?_, ?_, ?_⟩
  · rw [← run.2.length_toList, hList]
  · rw [run.2.isEmpty_eq, hList]
  · rw [run.2.isFull_eq, hList, hCapacity]

/-- In a ring of three slots the fourth item takes the place of the first, round the end. -/
example :
    (RingCall.replay RingCall.onRing
      [.push 1, .push 2, .push 3, .push 4, .last, .pop, .push 5, .push 6, .drain, .pop]
      (Ring.ofSize 3 : Ring Nat)).1 =
      [.nothing, .nothing, .nothing, .nothing, .item (some 4), .item (some 2), .nothing, .nothing,
        .items [4, 5, 6], .item none] := by
  rfl

end Handheld

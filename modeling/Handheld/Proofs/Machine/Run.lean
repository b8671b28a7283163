import Handheld.Machine.Run

/-! # Where a run leads

A run can be taken up again where some of its steps have led. So it is known as a whole as soon as
steps have led to the end of the program or to a step that fails.
-/
set_option autoImplicit false
namespace Handheld

namespace RunResult
variable {ι : Type}

def stepsMade (result : RunResult ι) : Nat :=
  if result.fault.isSome then result.steps - 1 else result.steps

def behind (count : Nat) (result : RunResult ι) : RunResult ι :=
  { result with steps := result.steps + count }

end RunResult

namespace Machine
variable {ι : Type} {interpreter : Interpreter ι} {machine middle after : Machine ι}
  {count : Nat}

/-- So many steps, none of them failing, lead from one machine to another. -/
def LeadsTo (interpreter : Interpreter ι) (count : Nat) (machine after : Machine ι) : Prop :=
  ∀ limit, machine.run interpreter (count + limit) = (after.run interpreter limit).behind count

theorem LeadsTo.refl (machine : Machine ι) : LeadsTo interpreter 0 machine machine := by
  intro limit
  rw [Nat.zero_add]
  rfl

theorem run_succ (hReady : machine.isEnd = false)
    (hFault : (machine.step interpreter).fault = none) (limit : Nat) :
    machine.run interpreter (limit + 1) =
      ((machine.step interpreter).state.run interpreter limit).behind 1 := by
  rw [run, if_neg (by simp [hReady])]
  dsimp only
  rw [hFault]
  rfl

theorem LeadsTo.step (h : LeadsTo interpreter count machine after) (hReady : after.isEnd = false)
    (hFault : (after.step interpreter).fault = none) :
    LeadsTo interpreter (count + 1) machine (after.step interpreter).state := by
  intro limit
  calc machine.run interpreter (count + 1 + limit)
      = machine.run interpreter (count + (limit + 1)) := by rw [Nat.add_assoc, Nat.add_comm 1]
    _ = (after.run interpreter (limit + 1)).behind count := h (limit + 1)
    _ = (((after.step interpreter).state.run interpreter limit).behind 1).behind count := by
        rw [run_succ hReady hFault]
    _ = ((after.step interpreter).state.run interpreter limit).behind (count + 1) := by
        rw [RunResult.behind, RunResult.behind, RunResult.behind, Nat.add_assoc, Nat.add_comm 1]

theorem LeadsTo.trans (h : LeadsTo interpreter count machine middle) {more : Nat}
    (hMore : LeadsTo interpreter more middle after) :
    LeadsTo interpreter (count + more) machine after := by
  intro limit
  rw [Nat.add_assoc, h, hMore, RunResult.behind, RunResult.behind, RunResult.behind,
    Nat.add_assoc, Nat.add_comm more]

theorem run_of_isEnd (hEnd : machine.isEnd = true) (limit : Nat) :
    machine.run interpreter limit = ⟨machine, 0, none⟩ := by
  cases limit with
  | zero => rfl
  | succ limit => rw [run, if_pos hEnd]

/-- A run is over with the step that ends the program, also where that step fails. -/
theorem run_of_last (hReady : machine.isEnd = false)
    (hLast : (machine.step interpreter).state.isEnd = true) {limit : Nat} (hLimit : 1 ≤ limit) :
    machine.run interpreter limit =
      ⟨(machine.step interpreter).state, 1, (machine.step interpreter).fault⟩ := by
  obtain ⟨rest, rfl⟩ := Nat.exists_eq_add_of_le' hLimit
  rw [run, if_neg (by simp [hReady])]
  dsimp only
  cases (machine.step interpreter).fault with
  | none => rw [run_of_isEnd hLast]
  | some e => rfl

theorem LeadsTo.run_of_isEnd (h : LeadsTo interpreter count machine after)
    (hEnd : after.isEnd = true) {limit : Nat} (hLimit : count ≤ limit) :
    machine.run interpreter limit = ⟨after, count, none⟩ := by
  obtain ⟨rest, rfl⟩ := Nat.exists_eq_add_of_le hLimit
  rw [h rest, Machine.run_of_isEnd hEnd, RunResult.behind, Nat.zero_add]

theorem LeadsTo.run_of_fault (h : LeadsTo interpreter count machine after)
    (hReady : after.isEnd = false) {e : MachineError}
    (hFault : (after.step interpreter).fault = some e) {limit : Nat} (hLimit : count < limit) :
    machine.run interpreter limit = ⟨(after.step interpreter).state, count + 1, some e⟩ := by
  obtain ⟨rest, rfl⟩ := Nat.exists_eq_add_of_lt hLimit
  rw [Nat.add_assoc, h (rest + 1), run, if_neg (by simp [hReady])]
  dsimp only
  rw [hFault, RunResult.behind, Nat.add_comm 1]

end Machine
end Handheld

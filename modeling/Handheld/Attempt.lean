/-! # Attempts

An attempt is an operation that may stop at a fault and keeps what it changed before the fault.
A caller that goes on after a fault therefore sees every byte stored and every counter moved so far.
-/
set_option autoImplicit false
namespace Handheld

/-- The state an operation leaves behind, and the fault that stopped it, if any. -/
structure Attempt (ε σ : Type) where
  state : σ
  fault : Option ε

namespace Attempt
variable {ε φ σ τ : Type}

def done (state : σ) : Attempt ε σ := ⟨state, none⟩

def stopped (fault : ε) (state : σ) : Attempt ε σ := ⟨state, some fault⟩

def andThen (first : Attempt ε σ) (next : σ → Attempt ε σ) : Attempt ε σ :=
  match first.fault with
  | none => next first.state
  | some _ => first

def map (f : σ → τ) (attempt : Attempt ε σ) : Attempt ε τ := ⟨f attempt.state, attempt.fault⟩

def mapFault (f : ε → φ) (attempt : Attempt ε σ) : Attempt φ σ :=
  ⟨attempt.state, attempt.fault.map f⟩

@[simp] theorem done_andThen (state : σ) (next : σ → Attempt ε σ) :
    (done state).andThen next = next state := rfl

@[simp] theorem stopped_andThen (fault : ε) (state : σ) (next : σ → Attempt ε σ) :
    (stopped fault state).andThen next = stopped fault state := rfl

theorem andThen_of_fault_eq_none {first : Attempt ε σ} (h : first.fault = none)
    (next : σ → Attempt ε σ) : first.andThen next = next first.state := by
  rw [andThen, h]

theorem andThen_fault_eq_none_iff (first : Attempt ε σ) (next : σ → Attempt ε σ) :
    (first.andThen next).fault = none ↔ first.fault = none ∧ (next first.state).fault = none := by
  cases h : first.fault <;> simp [andThen, h]

end Attempt
end Handheld

import Handheld.Proofs.Memory.Layout

/-! # Spaces built by calls

Any sequence of installations, replacements and new layouts that starts from the empty space keeps
the layout: the bases are running sums, the total fits 32-bit addresses, and a kind stands for the
region of that kind that was installed first. Whether an installation is accepted depends on the
running total alone.
-/
set_option autoImplicit false
namespace Handheld

inductive LayoutCall
  | install (region : Region)
  | replace (region : Region)
  | relayout

namespace LayoutCall

/-- The space after a call; what a failing call leaves behind is the space it was made on, except
that a replacement restores it by its own means. -/
def apply (space : AddressSpace) : LayoutCall → AddressSpace
  | install region =>
    match space.install region with
    | .ok after => after
    | .error _ => space
  | replace region => (space.replace region).1
  | relayout =>
    match space.relayout with
    | .ok after => after
    | .error _ => space

def Allocatable : LayoutCall → Prop
  | install region | replace region => region.size < AddressSpace.sizeLimit
  | relayout => True

end LayoutCall

namespace AddressSpace

def builtBy (calls : List LayoutCall) : AddressSpace := calls.foldl LayoutCall.apply empty

theorem LaidOut.apply {space : AddressSpace} (h : LaidOut space) {call : LayoutCall}
    (hCall : call.Allocatable) : LaidOut (call.apply space) := by
  cases call with
  | install region =>
    rw [LayoutCall.apply]
    cases hAfter : space.install region with
    | ok after => exact h.of_install hCall hAfter
    | error e => exact h
  | replace region => exact h.of_replace fun _ => h.goesOn_replace hCall
  | relayout =>
    rw [LayoutCall.apply, h.relayout_eq]
    exact h

theorem laidOut_builtBy {calls : List LayoutCall} (hCalls : ∀ call ∈ calls, call.Allocatable) :
    LaidOut (builtBy calls) := by
  have hRun : ∀ (rest : List LayoutCall) (space : AddressSpace), LaidOut space →
      (∀ call ∈ rest, call.Allocatable) → LaidOut (rest.foldl LayoutCall.apply space) := by
    intro rest
    induction rest with
    | nil => exact fun space h _ => h
    | cons call rest ih =>
      intro space h hRest
      rw [List.forall_mem_cons] at hRest
      exact ih (call.apply space) (h.apply hRest.1) hRest.2
  exact hRun calls empty laidOut_empty hCalls

namespace LaidOut
variable {space : AddressSpace} {region : Region}

theorem limit_le_base (h : LaidOut space) {i j : Nat} {before after : Region} (hij : i < j)
    (hBefore : space.regions[i]? = some before) (hAfter : space.regions[j]? = some after) :
    before.limit ≤ after.base.toNat := by
  rw [h.limit_eq hBefore, h.starts j after hAfter]
  exact extent_take_mono _ hij

theorem install_eq_zeroSize_iff (h : LaidOut space) (hSize : region.size < sizeLimit) :
    space.install region = .error (.zeroSize region.kind) ↔ region.size = 0 := by
  rw [h.install_eq hSize]
  split
  · simp [*]
  · split
    · simp [*]
    · simp [*]

theorem install_eq_addressOverflow_iff (h : LaidOut space) (hSize : region.size < sizeLimit) :
    space.install region =
        .error (.addressOverflow region.kind (extent space.regions) region.size) ↔
      region.size ≠ 0 ∧ addressLimit < extent space.regions + region.size := by
  rw [h.install_eq hSize]
  split
  · simp [*]
  · split
    · simp [*]
    · simp [*]

theorem install_succeeds_iff (h : LaidOut space) :
    (∃ after, space.install region = .ok after) ↔
      region.size ≠ 0 ∧ extent space.regions + region.size ≤ addressLimit := by
  rw [exists_install_iff, h.nextBase_eq, Nat.pos_iff_ne_zero]

end LaidOut

/-- What holds of every space that calls have built, and which installations it accepts. -/
theorem layout_of_calls (calls : List LayoutCall) (hCalls : ∀ call ∈ calls, call.Allocatable) :
    let space := builtBy calls
    (∀ i region, space.regions[i]? = some region →
      region.base.toNat = extent (space.regions.take i) ∧ 1 ≤ region.size) ∧
    space.nextBase = extent space.regions ∧ extent space.regions ≤ addressLimit ∧
    (∀ (i j : Nat) (before after : Region), i < j → space.regions[i]? = some before →
      space.regions[j]? = some after → before.limit ≤ after.base.toNat) ∧
    (∀ addr : UInt32, addr.toNat < space.nextBase →
      ∃ region ∈ space.regions, region.Contains addr) ∧
    (∀ kind, space.region? kind = space.regions.find? fun region => region.kind == kind) ∧
    (∀ kind, space.region? kind = none ↔ ∀ region ∈ space.regions, region.kind ≠ kind) ∧
    ∀ region : Region, region.size < sizeLimit →
      (space.install region = .error (.zeroSize region.kind) ↔ region.size = 0) ∧
      (space.install region =
          .error (.addressOverflow region.kind space.nextBase region.size) ↔
        region.size ≠ 0 ∧ addressLimit < space.nextBase + region.size) ∧
      ((∃ after, space.install region = .ok after) ↔
        region.size ≠ 0 ∧ space.nextBase + region.size ≤ addressLimit) ∧
      ∀ e, space.install region = .error e → (LayoutCall.install region).apply space = space := by
  intro space
  have h : LaidOut space := laidOut_builtBy hCalls
  rw [h.nextBase_eq]
  refine ⟨?_, rfl, h.fits, ?_, ?_, h.region?_eq, h.region?_eq_none_iff, ?_⟩
  · intro i region hRegion
    exact ⟨h.starts i region hRegion, h.occupied region (List.mem_of_getElem? hRegion)⟩
  · intro i j before after hij hBefore hAfter
    exact h.limit_le_base hij hBefore hAfter
  · intro addr hAddr
    obtain ⟨i, region, hRegion, hContains⟩ := h.exists_contains hAddr
    exact ⟨region, List.mem_of_getElem? hRegion, hContains⟩
  · intro region hSize
    refine ⟨h.install_eq_zeroSize_iff hSize, h.install_eq_addressOverflow_iff hSize,
      h.install_succeeds_iff, ?_⟩
    intro e hError
    rw [LayoutCall.apply, hError]

/-- Two regions that fill the address space to its very end. -/
def fullCalls : List LayoutCall :=
  [.install (.reserve .graph 0x10 0x10), .install (.reserve .buffer 0xfffffff0 0),
    .replace (.reserve .graph 0x11 0), .relayout]

/-- The last address is taken, so that a single further byte does not fit. -/
theorem layout_of_fullCalls :
    (∀ call ∈ fullCalls, call.Allocatable) ∧ (builtBy fullCalls).nextBase = addressLimit ∧
    (builtBy fullCalls).install (.ofSize .string 1) =
      .error (.addressOverflow .string addressLimit 1) := by
  have hCalls : ∀ call ∈ fullCalls, call.Allocatable := by
    simp [fullCalls, LayoutCall.Allocatable, Region.reserve, Region.size, Backing.size, sizeLimit]
  have hTotal : (builtBy fullCalls).nextBase = addressLimit := by decide +kernel
  refine ⟨hCalls, hTotal, ?_⟩
  obtain ⟨_, _, _, _, _, _, _, hInstall⟩ := layout_of_calls fullCalls hCalls
  have hOverflow := (hInstall (.ofSize .string 1) (by decide +kernel)).2.1
  rw [hTotal] at hOverflow
  exact hOverflow.mpr ⟨by decide +kernel, by decide +kernel⟩

end AddressSpace
end Handheld

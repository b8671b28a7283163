import Handheld.Proofs.Memory.LayoutCalls

/-! # Sums that overflow

The end of a region is a sum of 64 bits, and a size near the top of these takes it beyond them. Such
a call is neither accepted nor refused: the program stops. Every other call is decided by the exact
sum of all sizes.
-/
set_option autoImplicit false
namespace Handheld

namespace LayoutCall

def wanted (space : AddressSpace) : LayoutCall → Option (List Region)
  | install region => some (space.regions ++ [region])
  | replace region =>
    (space.firsts region.kind).bind fun i =>
      space.regions[i]?.map fun _ => space.regions.set i region
  | relayout => some space.regions

def Accepted (space : AddressSpace) : LayoutCall → Prop
  | install region => ∃ after, space.install region = .ok after
  | replace region => ∃ old, (space.replace region).2 = .ok old
  | relayout => ∃ after, space.relayout = .ok after

/-- The call does not come back. -/
def Stops (space : AddressSpace) : LayoutCall → Prop
  | install region => ∃ e, space.install region = .error e ∧ e.stopsProgram = true
  | replace region => ∃ e, (space.replace region).2 = .error e ∧ e.stopsProgram = true
  | relayout => ∃ e, space.relayout = .error e ∧ e.stopsProgram = true

end LayoutCall

namespace AddressSpace
variable {space : AddressSpace} {region : Region} {call : LayoutCall}

theorem checkFrom_append {before : List Region} {base : Nat}
    (hBefore : checkFrom base before = .ok ()) (after : List Region) :
    checkFrom base (before ++ after) = checkFrom (base + extent before) after := by
  induction before generalizing base with
  | nil => simp
  | cons region rest ih =>
    rw [checkFrom] at hBefore
    rw [List.cons_append, checkFrom, extent_cons, ← Nat.add_assoc]
    cases hFit : checkFit region base with
    | error e =>
      rw [hFit] at hBefore
      cases hBefore
    | ok _ =>
      rw [hFit] at hBefore
      exact ih hBefore

/-- A replacement comes to the same end as the layout of the regions with the new one among them. -/
theorem LaidOut.wanted_replace_cases (h : LaidOut space) (region : Region) :
    (LayoutCall.replace region).wanted space = none ∧
        (space.replace region).2 = .error (.missing region.kind) ∨
      ∃ i old, (LayoutCall.replace region).wanted space = some (space.setRegion i region).regions ∧
        (space.replace region).2 = (space.setRegion i region).relayout.map fun _ => old := by
  rw [LayoutCall.wanted]
  obtain ⟨hFirst, hReplace⟩ | ⟨i, old, hFirst, hOld, -, hLaid⟩ := h.replace_cases region
  · rw [hFirst, hReplace]
    exact .inl ⟨rfl, rfl⟩
  · refine .inr ⟨i, old, ?_, ?_⟩
    · rw [hFirst, Option.bind_some, hOld]
      rfl
    · obtain ⟨laid, hLaid, hReplace⟩ | ⟨e, hLaid, hReplace⟩ := hLaid
      · rw [hReplace, hLaid]
        rfl
      · rw [hReplace, hLaid]
        rfl

theorem LaidOut.accepted_iff (h : LaidOut space) (call : LayoutCall) :
    call.Accepted space ↔
      ∃ regions, call.wanted space = some regions ∧
        (∀ region ∈ regions, 0 < region.size) ∧ extent regions ≤ addressLimit := by
  cases call with
  | install region =>
    have hOccupied := h.occupied
    rw [LayoutCall.Accepted, exists_install_iff, h.nextBase_eq, LayoutCall.wanted]
    simp only [Option.some.injEq, exists_eq_left', List.forall_mem_append,
      List.forall_mem_singleton, extent_append, extent_cons, extent_nil, Nat.add_zero]
    exact and_congr_left fun _ => ⟨fun hPos => ⟨hOccupied, hPos⟩, And.right⟩
  | replace region =>
    rw [LayoutCall.Accepted]
    obtain ⟨hNone, hMissing⟩ | ⟨i, old, hWanted, hResult⟩ := h.wanted_replace_cases region
    · simp [hNone, hMissing]
    · simp only [hWanted, hResult, Option.some.injEq, exists_eq_left', ← exists_relayout_iff]
      cases (space.setRegion i region).relayout with
      | error e => simp [Except.map]
      | ok laid => simp [Except.map]
  | relayout =>
    rw [LayoutCall.Accepted, exists_relayout_iff, LayoutCall.wanted]
    simp

theorem LaidOut.stops_iff (h : LaidOut space) (call : LayoutCall) :
    call.Stops space ↔ ∃ regions, call.wanted space = some regions ∧ Overflows regions := by
  cases call with
  | install region =>
    have hBefore : checkFrom 0 space.regions = .ok () := by
      rw [checkFrom_eq_ok_iff (Nat.zero_le _), Nat.zero_add]
      exact ⟨h.occupied, h.fits⟩
    have hLast (e : MemoryError) : checkFrom 0 (space.regions ++ [region]) = .error e ↔
        checkFit region space.nextBase = .error e := by
      rw [checkFrom_append hBefore, Nat.zero_add, h.nextBase_eq, checkFrom]
      cases checkFit region (extent space.regions) with
      | error found => simp
      | ok _ => simp [checkFrom]
    simp only [LayoutCall.Stops, LayoutCall.wanted, install_eq_error_iff, Option.some.injEq,
      exists_eq_left', overflows_iff, hLast]
  | replace region =>
    rw [LayoutCall.Stops]
    obtain ⟨hNone, hMissing⟩ | ⟨i, old, hWanted, hResult⟩ := h.wanted_replace_cases region
    · simp [hNone, hMissing, MemoryError.stopsProgram]
    · simp only [hWanted, hResult, Option.some.injEq, exists_eq_left', overflows_iff,
        ← relayout_eq_error_iff_checkFrom]
      cases (space.setRegion i region).relayout with
      | error e => simp [Except.map]
      | ok laid => simp [Except.map]
  | relayout =>
    simp only [LayoutCall.Stops, LayoutCall.wanted, Option.some.injEq, exists_eq_left',
      overflows_iff, relayout_eq_error_iff_checkFrom]

theorem LaidOut.apply_of_refused (h : LaidOut space) (hRefused : ¬ call.Accepted space)
    (hGo : ¬ call.Stops space) : call.apply space = space := by
  cases call with
  | install region =>
    rw [LayoutCall.apply]
    cases hAfter : space.install region with
    | ok after => exact absurd ⟨after, hAfter⟩ hRefused
    | error e => rfl
  | replace region =>
    cases hResult : (space.replace region).2 with
    | ok old => exact absurd ⟨old, hResult⟩ hRefused
    | error e =>
      refine h.replace_of_error hResult (Bool.eq_false_iff.mpr fun hStops => ?_)
      exact hGo ⟨e, hResult, hStops⟩
  | relayout => exact absurd ⟨space, h.relayout_eq⟩ hRefused

theorem LaidOut.apply_of_goesOn (h : LaidOut space) (hGo : ¬ call.Stops space) :
    LaidOut (call.apply space) := by
  cases call with
  | install region =>
    rw [LayoutCall.apply]
    cases hAfter : space.install region with
    | ok after =>
      have hFits := (exists_install_iff.mp ⟨after, hAfter⟩).2
      have hSize : region.size < sizeLimit := by
        simp only [addressLimit, sizeLimit] at *
        omega
      exact h.of_install hSize hAfter
    | error e => exact h
  | replace region =>
    refine h.of_replace fun e hError => Bool.eq_false_iff.mpr fun hStops => ?_
    exact hGo ⟨e, hError, hStops⟩
  | relayout =>
    rw [LayoutCall.apply, h.relayout_eq]
    exact h

def GoesOn (space : AddressSpace) : List LayoutCall → Prop
  | [] => True
  | call :: rest => ¬ call.Stops space ∧ GoesOn (call.apply space) rest

theorem LaidOut.foldl_of_goesOn {calls : List LayoutCall} (h : LaidOut space)
    (hCalls : GoesOn space calls) : LaidOut (calls.foldl LayoutCall.apply space) := by
  induction calls generalizing space with
  | nil => exact h
  | cons call rest ih => exact ih (h.apply_of_goesOn hCalls.1) hCalls.2

theorem Overflows.addressLimit_lt {regions : List Region} (h : Overflows regions) :
    addressLimit < extent regions := by
  obtain ⟨before, region, after, rfl, -, -, hBeyond⟩ := h
  have hLimit : addressLimit < wordLimit := by decide
  rw [extent_append, extent_cons]
  omega

/-- After calls of which none has stopped the program, a call with regions of any sizes is accepted
if and only if none of them is empty and the exact sum of their sizes is within the 32-bit
addresses. But not every other call is refused. It stops the program if and only if the end of one
of the regions, behind others that fit, is a sum of more than 64 bits. -/
theorem fit_of_calls {calls : List LayoutCall} (hCalls : GoesOn empty calls)
    (call : LayoutCall) :
    let space := builtBy calls
    space.nextBase = extent space.regions ∧
    (call.Accepted space ↔
      ∃ regions, call.wanted space = some regions ∧
        (∀ region ∈ regions, 0 < region.size) ∧ extent regions ≤ addressLimit) ∧
    (call.Stops space ↔ ∃ regions, call.wanted space = some regions ∧ Overflows regions) ∧
    (∀ regions, Overflows regions → addressLimit < extent regions) ∧
    (¬ call.Accepted space → ¬ call.Stops space → call.apply space = space) := by
  intro space
  have h : LaidOut space := laidOut_empty.foldl_of_goesOn hCalls
  exact ⟨h.nextBase_eq, h.accepted_iff call, h.stops_iff call,
    fun _ hOverflows => hOverflows.addressLimit_lt, h.apply_of_refused⟩

def hugeRegion : Region := .reserve .buffer 0xffffffffffffffff 0

def fewCalls : List LayoutCall := [.install (.reserve .graph 4 4)]

/-- The first of all regions, the huge region is refused. Behind four addresses it stops the
program. -/
theorem fit_of_hugeRegion :
    empty.install hugeRegion = .error (.addressOverflow .buffer 0 0xffffffffffffffff) ∧
    GoesOn empty fewCalls ∧ hugeRegion.size < wordLimit ∧
    (LayoutCall.install hugeRegion).Stops (builtBy fewCalls) ∧
    ¬ (LayoutCall.install hugeRegion).Accepted (builtBy fewCalls) := by
  have hGoesOn : GoesOn empty fewCalls := by
    refine ⟨?_, trivial⟩
    rintro ⟨e, hError, -⟩
    cases hError
  obtain ⟨-, -, hStops, -, -⟩ := fit_of_calls hGoesOn (.install hugeRegion)
  have hWanted : (LayoutCall.install hugeRegion).wanted (builtBy fewCalls) =
      some ((builtBy fewCalls).regions ++ [hugeRegion]) := rfl
  have hOverflows : Overflows ((builtBy fewCalls).regions ++ [hugeRegion]) :=
    ⟨_, hugeRegion, [], rfl, by decide +kernel, by decide +kernel, by decide +kernel⟩
  have hStopped := hStops.mpr ⟨_, hWanted, hOverflows⟩
  refine ⟨rfl, hGoesOn, by decide, hStopped, ?_⟩
  rintro ⟨after, hAfter⟩
  obtain ⟨e, hError, -⟩ := hStopped
  cases hAfter.symm.trans hError

end AddressSpace
end Handheld

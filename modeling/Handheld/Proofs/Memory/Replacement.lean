import Handheld.Proofs.Memory.LayoutCalls

/-! # Replacing a region

A region that takes the place of the first one of its kind moves the others and changes nothing
else. Where the regions do not fit any more, the error names the first of them that stands in the
way, and the space is the one it was: laid out again, the regions of before do not move.
-/
set_option autoImplicit false
namespace Handheld.AddressSpace

/-- Regions fit one after another from a base up to one that has no bytes or that would end beyond
the address space. -/
def FirstMisfit (base : Nat) (regions : List Region) (e : MemoryError) : Prop :=
  ∃ before region after, regions = before ++ region :: after ∧
    (∀ other ∈ before, 0 < other.size) ∧ base + extent before ≤ addressLimit ∧
    (region.size = 0 ∧ e = .zeroSize region.kind ∨
      0 < region.size ∧ addressLimit < base + extent before + region.size ∧
        e = .addressOverflow region.kind (base + extent before) region.size)

theorem checkFit_eq_error_iff {region : Region} {base : Nat} {e : MemoryError}
    (hBase : base ≤ addressLimit) (hSize : region.size < sizeLimit) :
    checkFit region base = .error e ↔
      region.size = 0 ∧ e = .zeroSize region.kind ∨
        0 < region.size ∧ addressLimit < base + region.size ∧
          e = .addressOverflow region.kind base region.size := by
  rw [checkFit_eq hBase hSize]
  by_cases hZero : region.size = 0
  · simp [hZero, eq_comm]
  · have hOccupied : 0 < region.size := Nat.pos_of_ne_zero hZero
    by_cases hBeyond : addressLimit < base + region.size
    · simp [hZero, hOccupied, hBeyond, eq_comm]
    · simp [hZero, hBeyond]

theorem relayout_eq_error_iff {space : AddressSpace} {e : MemoryError}
    (hSizes : ∀ region ∈ space.regions, region.size < sizeLimit) :
    space.relayout = .error e ↔ FirstMisfit 0 space.regions e := by
  rw [relayout_eq_error_iff_checkFrom, checkFrom_eq_error_iff, FirstMisfit]
  refine exists_congr fun before => exists_congr fun region => exists_congr fun after =>
    and_congr_right fun hSplit => ?_
  rw [checkFrom_eq_ok_iff (Nat.zero_le _), and_assoc]
  refine and_congr_right fun _ => and_congr_right fun hEnd => ?_
  exact checkFit_eq_error_iff hEnd (hSizes region (by simp [hSplit]))

/-- A region and those around it, none of the ones before it being of its kind. -/
structure FirstOfKind (regions : List Region) (kind : RegionKind) (before : List Region)
    (first : Region) (after : List Region) : Prop where
  split : regions = before ++ first :: after
  kind_eq : first.kind = kind
  other_kind : ∀ other ∈ before, other.kind ≠ kind

namespace LaidOut
variable {space : AddressSpace} {region : Region}

theorem exists_firstOfKind (h : LaidOut space) {kind : RegionKind} {i : Nat}
    (hFirst : space.firsts kind = some i) :
    ∃ before first after, FirstOfKind space.regions kind before first after ∧
      i = before.length := by
  rw [h.indexed, List.findIdx?_eq_some_iff_getElem] at hFirst
  obtain ⟨hLength, hKind, hEarlier⟩ := hFirst
  refine ⟨space.regions.take i, space.regions[i], space.regions.drop (i + 1), ⟨?_, ?_, ?_⟩, ?_⟩
  · rw [List.getElem_cons_drop, List.take_append_drop]
  · exact beq_iff_eq.mp hKind
  · intro other hOther
    obtain ⟨j, hj, rfl⟩ := List.mem_take_iff_getElem.mp hOther
    simpa using hEarlier j (by omega)
  · simp; omega

theorem getElem?_of_firstOfKind {kind : RegionKind} {before after : List Region} {first : Region}
    (hFirst : FirstOfKind space.regions kind before first after) :
    space.regions[before.length]? = some first := by
  simp [hFirst.split]

theorem setRegion_of_firstOfKind {kind : RegionKind} {before after : List Region} {first : Region}
    (hFirst : FirstOfKind space.regions kind before first after) (region : Region) :
    (space.setRegion before.length region).regions = before ++ region :: after := by
  simp [setRegion, hFirst.split]

theorem firsts_replace (h : LaidOut space) (region : Region) :
    (space.replace region).1.firsts = space.firsts := by
  obtain ⟨-, hReplace⟩ | ⟨i, old, -, -, -, ⟨laid, hLaid, hReplace⟩ | ⟨e, -, hReplace⟩⟩ :=
    h.replace_cases region
  · rw [hReplace]
  · have hFirsts := firsts_relayout hLaid
    rwa [hReplace]
  · rw [hReplace]
    dsimp only
    split
    · rfl
    · rfl

theorem replaced_of_ok (h : LaidOut space) {old : Region}
    (hOk : (space.replace region).2 = .ok old) :
    ∃ before after, FirstOfKind space.regions region.kind before old after ∧
      (space.replace region).1.regions.map Region.unplaced =
        (before ++ region :: after).map Region.unplaced := by
  cases hIndex : space.firsts region.kind with
  | none =>
    rw [replace_of_none hIndex] at hOk
    cases hOk
  | some i =>
    obtain ⟨before, first, after, hFirst, rfl⟩ := h.exists_firstOfKind hIndex
    have hGet := getElem?_of_firstOfKind hFirst
    rw [h.replace_eq hIndex hGet] at hOk ⊢
    cases hLaid : (space.setRegion before.length region).relayout with
    | error e =>
      rw [hLaid] at hOk
      cases hOk
    | ok laid =>
      rw [hLaid] at hOk
      cases hOk
      refine ⟨before, after, hFirst, ?_⟩
      rw [← setRegion_of_firstOfKind hFirst region]
      exact map_unplaced_relayout hLaid

theorem restored_of_error (h : LaidOut space) (hSize : region.size < sizeLimit) {e : MemoryError}
    (hError : (space.replace region).2 = .error e) :
    (space.replace region).1 = space ∧
      (e = .missing region.kind ∧ (∀ other ∈ space.regions, other.kind ≠ region.kind) ∨
        ∃ before old after, FirstOfKind space.regions region.kind before old after ∧
          FirstMisfit 0 (before ++ region :: after) e ∧
          ((space.setRegion before.length region).setRegion before.length old).relayout =
            .ok space) := by
  have hSame := h.replace_of_error hError (h.goesOn_replace hSize hError)
  cases hIndex : space.firsts region.kind with
  | none =>
    rw [replace_of_none hIndex] at hError
    have hNone : space.region? region.kind = none := by rw [region?, hIndex, Option.bind_none]
    exact ⟨hSame, .inl ⟨(Except.error.inj hError).symm, (h.region?_eq_none_iff _).mp hNone⟩⟩
  | some i =>
    obtain ⟨before, old, after, hFirst, rfl⟩ := h.exists_firstOfKind hIndex
    have hGet := getElem?_of_firstOfKind hFirst
    rw [h.replace_eq hIndex hGet] at hError
    cases hLaid : (space.setRegion before.length region).relayout with
    | ok laid =>
      rw [hLaid] at hError
      cases hError
    | error found =>
      rw [hLaid] at hError
      cases hError
      refine ⟨hSame, .inr ⟨before, old, after, hFirst, ?_, ?_⟩⟩
      · rw [← setRegion_of_firstOfKind hFirst region]
        exact (relayout_eq_error_iff (h.size_lt_of_setRegion hSize _)).mp hLaid
      · rw [setRegion_setRegion hGet, h.relayout_eq]

end LaidOut

/-- A replacement hands back the first region of the kind and puts the new one in its place; the
others stay in order with all that they hold, and bases are running sums again. Or else it fails,
for a kind that no region has or for the first region that does not fit, and nothing has changed. -/
theorem replacement_of_calls {calls : List LayoutCall}
    (hCalls : ∀ call ∈ calls, call.Allocatable) (region : Region)
    (hSize : region.size < sizeLimit) :
    let space := builtBy calls
    let result := (space.replace region).1
    (∀ old, (space.replace region).2 = .ok old →
      space.region? region.kind = some old ∧ result.firsts = space.firsts ∧
      ∃ before after, FirstOfKind space.regions region.kind before old after ∧
        result.regions.map Region.unplaced = (before ++ region :: after).map Region.unplaced ∧
        (∀ i other, result.regions[i]? = some other →
          other.base.toNat = extent (result.regions.take i)) ∧
        result.nextBase = extent before + region.size + extent after ∧
        result.nextBase ≤ addressLimit) ∧
    ∀ e, (space.replace region).2 = .error e →
      result = space ∧
      (e = .missing region.kind ∧ (∀ other ∈ space.regions, other.kind ≠ region.kind) ∨
        ∃ before old after, FirstOfKind space.regions region.kind before old after ∧
          FirstMisfit 0 (before ++ region :: after) e ∧
          ((space.setRegion before.length region).setRegion before.length old).relayout =
            .ok space) := by
  intro space result
  have h : LaidOut space := laidOut_builtBy hCalls
  have hAfter : LaidOut result := h.of_replace fun _ => h.goesOn_replace hSize
  constructor
  · intro old hOk
    obtain ⟨before, after, hFirst, hUnplaced⟩ := h.replaced_of_ok hOk
    have hSizes : result.regions.map Region.size = (before ++ region :: after).map Region.size := by
      have hMap := congrArg (List.map Region.size) hUnplaced
      rwa [List.map_map, List.map_map] at hMap
    refine ⟨?_, h.firsts_replace region, before, after, hFirst, hUnplaced, hAfter.starts, ?_,
      hAfter.nextBase_le⟩
    · rw [h.region?_eq, hFirst.split, List.find?_append, List.find?_eq_none.mpr]
      · simp [hFirst.kind_eq]
      · simpa using hFirst.other_kind
    · rw [hAfter.nextBase_eq, extent_congr hSizes, extent_append, extent_cons, Nat.add_assoc]
  · intro e hError
    exact h.restored_of_error hSize hError

/-- Six addresses are left behind the last of three regions. -/
def crowdedCalls : List LayoutCall :=
  [.install (.ofSize .runtime 2), .install (.reserve .graph 0xfffffff0 0),
    .install (.ofSize .string 8)]

/-- Eight more addresses for the picture leave too few for the strings behind it. -/
theorem replacement_of_crowdedCalls :
    let space := builtBy crowdedCalls
    let wide := Region.reserve .graph 0xfffffff8 0
    let narrow := Region.reserve .graph 1 1
    (∀ call ∈ crowdedCalls, call.Allocatable) ∧ wide.size < sizeLimit ∧ narrow.size < sizeLimit ∧
    (space.replace wide).2 = .error (.addressOverflow .string 0xfffffffa 8) ∧
    (space.replace wide).1 = space ∧
    ∃ old, (space.replace narrow).2 = .ok old ∧ space.region? .graph = some old ∧
      old.size = 0xfffffff0 ∧ (space.replace narrow).1.nextBase = 11 := by
  intro space wide narrow
  have hCalls : ∀ call ∈ crowdedCalls, call.Allocatable := by
    simp [crowdedCalls, LayoutCall.Allocatable, Region.ofSize, Region.reserve, Region.size,
      Backing.size, sizeLimit]
  have hWide : wide.size < sizeLimit := by decide +kernel
  have hNarrow : narrow.size < sizeLimit := by decide +kernel
  have hError : ((builtBy crowdedCalls).replace (.reserve .graph 0xfffffff8 0)).2 =
      .error (.addressOverflow .string 0xfffffffa 8) := rfl
  obtain ⟨old, hOk, hSize⟩ : ∃ old, (space.replace narrow).2 = .ok old ∧ old.size = 0xfffffff0 :=
    ⟨_, rfl, rfl⟩
  obtain ⟨-, hRefused⟩ := replacement_of_calls hCalls wide hWide
  obtain ⟨hReplaced, -⟩ := replacement_of_calls hCalls narrow hNarrow
  obtain ⟨hFirst, -⟩ := hReplaced old hOk
  exact ⟨hCalls, hWide, hNarrow, hError, (hRefused _ hError).1, old, hOk, hFirst, hSize,
    by decide +kernel⟩

end Handheld.AddressSpace

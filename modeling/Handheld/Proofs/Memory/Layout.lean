import Handheld.Memory.AddressSpace

/-! # The layout of the address space

Every region starts where the sizes before it add up to, no region is empty, and all of them end
within the 32-bit addresses. Installing, replacing and laying out again keep this layout together
with the index of first regions, whether they succeed or not.
-/
set_option autoImplicit false
namespace Handheld

namespace Region

def outline (region : Region) : RegionKind × UInt32 × Nat :=
  (region.kind, region.base, region.size)

def unplaced (region : Region) : Region := region.moveTo 0

@[simp] theorem size_unplaced (region : Region) : region.unplaced.size = region.size := rfl

@[simp] theorem kind_unplaced (region : Region) : region.unplaced.kind = region.kind := rfl

theorem unplaced_moveTo (region : Region) (base : UInt32) :
    (region.moveTo base).unplaced = region.unplaced := rfl

theorem moveTo_unplaced (region : Region) (base : UInt32) :
    region.unplaced.moveTo base = region.moveTo base := rfl

theorem outline_set (region : Region) (offset : Nat) (value : UInt8) :
    (region.set offset value).outline = region.outline := by
  cases hBacking : region.backing with
  | bytes data =>
    simp [outline, set, size, hBacking, Backing.set, Backing.size]
  | page view => simp [outline, set, size, hBacking, Backing.set]
  | reserved extent backed => simp [outline, set, size, hBacking, Backing.set]

theorem outline_zeroed (region : Region) : region.zeroed.outline = region.outline := by
  cases hBacking : region.backing with
  | bytes data =>
    simp [outline, zeroed, size, hBacking, Backing.zeroed, Backing.size]
  | page view => simp [outline, zeroed, size, hBacking, Backing.zeroed]
  | reserved extent backed => simp [outline, zeroed, size, hBacking, Backing.zeroed]

end Region

namespace AddressSpace

def extent : List Region → Nat
  | [] => 0
  | region :: rest => region.size + extent rest

@[simp] theorem extent_nil : extent [] = 0 := rfl

@[simp] theorem extent_cons (region : Region) (rest : List Region) :
    extent (region :: rest) = region.size + extent rest := rfl

@[simp] theorem extent_append (before after : List Region) :
    extent (before ++ after) = extent before + extent after := by
  induction before with
  | nil => simp
  | cons region rest ih => simp [ih, Nat.add_assoc]

theorem extent_take_succ {regions : List Region} {i : Nat} {region : Region}
    (h : regions[i]? = some region) :
    extent (regions.take (i + 1)) = extent (regions.take i) + region.size := by
  rw [List.take_add_one, h]
  simp

theorem extent_take_mono (regions : List Region) {i j : Nat} (h : i ≤ j) :
    extent (regions.take i) ≤ extent (regions.take j) := by
  have hSplit : regions.take j = (regions.take j).take i ++ (regions.take j).drop i :=
    (List.take_append_drop i _).symm
  rw [List.take_take, Nat.min_eq_left h] at hSplit
  rw [hSplit, extent_append]
  exact Nat.le_add_right _ _

theorem extent_take_le (regions : List Region) (i : Nat) :
    extent (regions.take i) ≤ extent regions := by
  have h := extent_take_mono regions (Nat.le_max_left i regions.length)
  rwa [List.take_of_length_le (Nat.le_max_right i regions.length)] at h

theorem exists_extent_take {regions : List Region} {n : Nat} (h : n < extent regions) :
    ∃ i region, regions[i]? = some region ∧ extent (regions.take i) ≤ n ∧
      n < extent (regions.take i) + region.size := by
  induction regions generalizing n with
  | nil => simp at h
  | cons region rest ih =>
    rw [extent_cons] at h
    by_cases hFirst : n < region.size
    · exact ⟨0, region, rfl, by simp, by simpa using hFirst⟩
    · obtain ⟨i, other, hOther, hStart, hEnd⟩ := ih (n := n - region.size) (by omega)
      refine ⟨i + 1, other, by simpa using hOther, ?_, ?_⟩
      · rw [List.take_succ_cons, extent_cons]
        omega
      · rw [List.take_succ_cons, extent_cons]
        omega

theorem size_le_extent {regions : List Region} {region : Region} (h : region ∈ regions) :
    region.size ≤ extent regions := by
  induction h with
  | head rest => simp
  | tail other _ ih => exact Nat.le_trans ih (Nat.le_add_left _ _)

theorem extent_congr {regions others : List Region}
    (h : regions.map Region.size = others.map Region.size) : extent regions = extent others := by
  induction regions generalizing others with
  | nil =>
    obtain rfl : others = [] := List.map_eq_nil_iff.mp h.symm
    rfl
  | cons region rest ih =>
    cases others with
    | nil => cases h
    | cons other after =>
      rw [List.map_cons, List.map_cons, List.cons.injEq] at h
      rw [extent_cons, extent_cons, h.1, ih h.2]

/-- Every size that an allocation can have is below: no end of a range overflows. -/
def sizeLimit : Nat := 0x8000000000000000

theorem rangeEnd?_eq_some {base size : Nat} (hBase : base ≤ addressLimit)
    (hSize : size < sizeLimit) : rangeEnd? base size = some (base + size) := by
  apply if_pos
  simp only [addressLimit, sizeLimit, wordLimit] at *
  omega

theorem checkFit_eq {region : Region} {base : Nat} (hBase : base ≤ addressLimit)
    (hSize : region.size < sizeLimit) :
    checkFit region base =
      if region.size = 0 then .error (.zeroSize region.kind)
      else if addressLimit < base + region.size then
        .error (.addressOverflow region.kind base region.size)
      else .ok () := by
  rw [checkFit, rangeEnd?_eq_some hBase hSize]

theorem checkFit_eq_ok_iff {region : Region} {base : Nat} :
    checkFit region base = .ok () ↔ 0 < region.size ∧ base + region.size ≤ addressLimit := by
  have hLimit : addressLimit < wordLimit := by decide
  rw [checkFit, rangeEnd?]
  by_cases hZero : region.size = 0
  · simp [hZero]
  · by_cases hWord : base + region.size < wordLimit
    · by_cases hBeyond : addressLimit < base + region.size
      · simp [hZero, hWord, hBeyond]
      · simp [hZero, hWord, hBeyond]
        omega
    · simp [hZero, hWord]
      omega

theorem checkFrom_eq_ok_iff {regions : List Region} {base : Nat} (hBase : base ≤ addressLimit) :
    checkFrom base regions = .ok () ↔
      (∀ region ∈ regions, 0 < region.size) ∧ base + extent regions ≤ addressLimit := by
  induction regions generalizing base with
  | nil => simpa [checkFrom] using hBase
  | cons region rest ih =>
    rw [checkFrom, List.forall_mem_cons, extent_cons]
    cases hFit : checkFit region base with
    | error e =>
      have hNot : ¬ (0 < region.size ∧ base + region.size ≤ addressLimit) := by
        rw [← checkFit_eq_ok_iff, hFit]
        simp
      simp only [reduceCtorEq, false_iff]
      rintro ⟨⟨hPos, _⟩, hEnd⟩
      exact hNot ⟨hPos, by omega⟩
    | ok _ =>
      obtain ⟨hPos, hEnd⟩ := checkFit_eq_ok_iff.mp hFit
      simp only [ih hEnd, hPos, true_and, Nat.add_assoc]

theorem checkFrom_eq_error_iff {regions : List Region} {base : Nat} {e : MemoryError} :
    checkFrom base regions = .error e ↔
      ∃ before region after, regions = before ++ region :: after ∧
        checkFrom base before = .ok () ∧ checkFit region (base + extent before) = .error e := by
  induction regions generalizing base with
  | nil => simp [checkFrom]
  | cons first rest ih =>
    rw [checkFrom]
    cases hFit : checkFit first base with
    | error found =>
      constructor
      · rintro ⟨⟩
        exact ⟨[], first, rest, rfl, rfl, hFit⟩
      · rintro ⟨before, region, after, hSplit, hBefore, hError⟩
        cases before with
        | nil =>
          obtain ⟨rfl, rfl⟩ := List.cons.inj hSplit
          exact hFit.symm.trans hError
        | cons other before =>
          obtain ⟨rfl, rfl⟩ := List.cons.inj hSplit
          rw [checkFrom, hFit] at hBefore
          cases hBefore
    | ok _ =>
      dsimp only
      rw [ih]
      constructor
      · rintro ⟨before, region, after, rfl, hBefore, hError⟩
        refine ⟨first :: before, region, after, rfl, ?_, ?_⟩
        · rw [checkFrom, hFit]
          exact hBefore
        · rwa [extent_cons, ← Nat.add_assoc]
      · rintro ⟨before, region, after, hSplit, hBefore, hError⟩
        cases before with
        | nil =>
          obtain ⟨rfl, rfl⟩ := List.cons.inj hSplit
          cases hFit.symm.trans hError
        | cons other before =>
          obtain ⟨rfl, rfl⟩ := List.cons.inj hSplit
          rw [checkFrom, hFit] at hBefore
          rw [extent_cons, ← Nat.add_assoc] at hError
          exact ⟨before, region, after, rfl, hBefore, hError⟩

/-- Regions fit one after another up to one whose end takes more than 64 bits. -/
def Overflows (regions : List Region) : Prop :=
  ∃ before region after, regions = before ++ region :: after ∧
    (∀ other ∈ before, 0 < other.size) ∧ extent before ≤ addressLimit ∧
    wordLimit ≤ extent before + region.size

theorem checkFit_stops_iff {region : Region} {base : Nat} (hBase : base ≤ addressLimit) :
    (∃ e, checkFit region base = .error e ∧ e.stopsProgram = true) ↔
      wordLimit ≤ base + region.size := by
  have hLimit : addressLimit < wordLimit := by decide
  rw [checkFit, rangeEnd?]
  by_cases hZero : region.size = 0
  · simp [hZero, MemoryError.stopsProgram]
    omega
  · by_cases hWord : base + region.size < wordLimit
    · by_cases hBeyond : addressLimit < base + region.size
      · simp [hZero, hWord, hBeyond, MemoryError.stopsProgram]
      · simp [hZero, hWord, hBeyond]
    · simp [hZero, hWord, MemoryError.stopsProgram]
      omega

theorem overflows_iff {regions : List Region} :
    Overflows regions ↔ ∃ e, checkFrom 0 regions = .error e ∧ e.stopsProgram = true := by
  simp only [checkFrom_eq_error_iff, Nat.zero_add]
  constructor
  · rintro ⟨before, region, after, hSplit, hOccupied, hEnd, hBeyond⟩
    obtain ⟨e, hError, hStops⟩ := (checkFit_stops_iff hEnd).mpr hBeyond
    have hBefore : checkFrom 0 before = .ok () := by
      rw [checkFrom_eq_ok_iff (Nat.zero_le _), Nat.zero_add]
      exact ⟨hOccupied, hEnd⟩
    exact ⟨e, ⟨before, region, after, hSplit, hBefore, hError⟩, hStops⟩
  · rintro ⟨e, ⟨before, region, after, hSplit, hBefore, hError⟩, hStops⟩
    rw [checkFrom_eq_ok_iff (Nat.zero_le _), Nat.zero_add] at hBefore
    exact ⟨before, region, after, hSplit, hBefore.1, hBefore.2,
      (checkFit_stops_iff hBefore.2).mp ⟨e, hError, hStops⟩⟩

theorem install_eq_error_iff {space : AddressSpace} {region : Region} {e : MemoryError} :
    space.install region = .error e ↔ checkFit region space.nextBase = .error e := by
  rw [install]
  cases checkFit region space.nextBase with
  | error found => simp
  | ok _ => simp

theorem exists_install_iff {space : AddressSpace} {region : Region} :
    (∃ after, space.install region = .ok after) ↔
      0 < region.size ∧ space.nextBase + region.size ≤ addressLimit := by
  rw [← checkFit_eq_ok_iff, install]
  cases checkFit region space.nextBase with
  | error e => simp
  | ok _ => simp

theorem exists_relayout_iff {space : AddressSpace} :
    (∃ after, space.relayout = .ok after) ↔
      (∀ region ∈ space.regions, 0 < region.size) ∧ extent space.regions ≤ addressLimit := by
  rw [← Nat.zero_add (extent space.regions), ← checkFrom_eq_ok_iff (Nat.zero_le _), relayout]
  cases checkFrom 0 space.regions with
  | error e => simp
  | ok _ => simp

theorem relayout_eq_error_iff_checkFrom {space : AddressSpace} {e : MemoryError} :
    space.relayout = .error e ↔ checkFrom 0 space.regions = .error e := by
  rw [relayout]
  cases checkFrom 0 space.regions with
  | error found => simp
  | ok _ => simp

theorem not_overflows_of_lt {regions : List Region}
    (hSizes : ∀ region ∈ regions, region.size < sizeLimit) : ¬ Overflows regions := by
  rintro ⟨before, region, after, rfl, -, hEnd, hBeyond⟩
  have hSize : region.size < sizeLimit := hSizes region (by simp)
  simp only [addressLimit, sizeLimit, wordLimit] at *
  omega

@[simp] theorem length_layFrom (base : Nat) (regions : List Region) :
    (layFrom base regions).length = regions.length := by
  induction regions generalizing base with
  | nil => rfl
  | cons region rest ih => simp [layFrom, ih]

@[simp] theorem map_size_layFrom (base : Nat) (regions : List Region) :
    (layFrom base regions).map Region.size = regions.map Region.size := by
  induction regions generalizing base with
  | nil => rfl
  | cons region rest ih => simp [layFrom, ih]

@[simp] theorem map_kind_layFrom (base : Nat) (regions : List Region) :
    (layFrom base regions).map Region.kind = regions.map Region.kind := by
  induction regions generalizing base with
  | nil => rfl
  | cons region rest ih => simp [layFrom, ih]

theorem extent_take_layFrom (base i : Nat) (regions : List Region) :
    extent ((layFrom base regions).take i) = extent (regions.take i) := by
  apply extent_congr
  rw [List.map_take, map_size_layFrom, List.map_take]

@[simp] theorem extent_layFrom (base : Nat) (regions : List Region) :
    extent (layFrom base regions) = extent regions :=
  extent_congr (map_size_layFrom base regions)

theorem getElem?_layFrom (regions : List Region) (base i : Nat) :
    (layFrom base regions)[i]? =
      regions[i]?.map fun region =>
        region.moveTo (UInt32.ofNat (base + extent (regions.take i))) := by
  induction regions generalizing base i with
  | nil => simp [layFrom]
  | cons region rest ih =>
    cases i with
    | zero => simp [layFrom]
    | succ i =>
      rw [layFrom, List.getElem?_cons_succ, ih, List.getElem?_cons_succ, List.take_succ_cons,
        extent_cons, Nat.add_assoc]

theorem layFrom_append (before after : List Region) (base : Nat) :
    layFrom base (before ++ after) =
      layFrom base before ++ layFrom (base + extent before) after := by
  induction before generalizing base with
  | nil => simp [layFrom]
  | cons region rest ih =>
    rw [List.cons_append, layFrom, ih, layFrom, extent_cons, List.cons_append, Nat.add_assoc]

theorem layFrom_map_unplaced (base : Nat) (regions : List Region) :
    layFrom base (regions.map Region.unplaced) = layFrom base regions := by
  induction regions generalizing base with
  | nil => rfl
  | cons region rest ih =>
    rw [List.map_cons, layFrom, layFrom, ih, Region.size_unplaced, Region.moveTo_unplaced]

theorem map_unplaced_layFrom (base : Nat) (regions : List Region) :
    (layFrom base regions).map Region.unplaced = regions.map Region.unplaced := by
  induction regions generalizing base with
  | nil => rfl
  | cons region rest ih =>
    rw [layFrom, List.map_cons, ih, Region.unplaced_moveTo, List.map_cons]

theorem layFrom_eq_self {regions : List Region}
    (hStarts : ∀ i region, regions[i]? = some region →
      region.base.toNat = extent (regions.take i)) : layFrom 0 regions = regions := by
  apply List.ext_getElem?
  intro i
  rw [getElem?_layFrom]
  cases hRegion : regions[i]? with
  | none => rfl
  | some region =>
    rw [Option.map_some, Nat.zero_add, ← hStarts i region hRegion, UInt32.ofNat_toNat]
    rfl

/-- The regions follow one another without gaps, and the index knows the first of each kind. -/
structure LaidOut (space : AddressSpace) : Prop where
  starts : ∀ i region, space.regions[i]? = some region →
    region.base.toNat = extent (space.regions.take i)
  occupied : ∀ region ∈ space.regions, 0 < region.size
  fits : extent space.regions ≤ addressLimit
  indexed : ∀ kind, space.firsts kind = space.regions.findIdx? fun region => region.kind == kind

theorem laidOut_empty : LaidOut empty where
  starts := by simp [empty]
  occupied := by simp [empty]
  fits := by simp [empty]
  indexed := by simp [empty]

namespace LaidOut
variable {space : AddressSpace}

theorem size_lt (h : LaidOut space) {region : Region} (hRegion : region ∈ space.regions) :
    region.size < sizeLimit := by
  have hSize := size_le_extent hRegion
  have hFits := h.fits
  simp only [addressLimit, sizeLimit] at *
  omega

theorem limit_eq (h : LaidOut space) {i : Nat} {region : Region}
    (hRegion : space.regions[i]? = some region) :
    region.limit = extent (space.regions.take (i + 1)) := by
  rw [Region.limit, h.starts i region hRegion, extent_take_succ hRegion]

theorem exists_contains (h : LaidOut space) {addr : UInt32}
    (hAddr : addr.toNat < extent space.regions) :
    ∃ (i : Nat) (region : Region), space.regions[i]? = some region ∧ region.Contains addr := by
  obtain ⟨i, region, hRegion, hStart, hEnd⟩ := exists_extent_take hAddr
  refine ⟨i, region, hRegion, ?_, ?_⟩
  · rwa [h.starts i region hRegion]
  · rwa [h.limit_eq hRegion, extent_take_succ hRegion]

theorem nextBase_eq (h : LaidOut space) : space.nextBase = extent space.regions := by
  rw [nextBase, List.getLast?_eq_getElem?]
  cases hLast : space.regions[space.regions.length - 1]? with
  | none =>
    have hLength := List.getElem?_eq_none_iff.mp hLast
    have hNil : space.regions = [] := List.length_eq_zero_iff.mp (by omega)
    simp [hNil]
  | some region =>
    have hLength := (List.getElem?_eq_some_iff.mp hLast).1
    change region.limit = _
    rw [h.limit_eq hLast, List.take_of_length_le (by omega)]

theorem nextBase_le (h : LaidOut space) : space.nextBase ≤ addressLimit := by
  rw [h.nextBase_eq]
  exact h.fits

theorem region?_eq (h : LaidOut space) (kind : RegionKind) :
    space.region? kind = space.regions.find? fun region => region.kind == kind := by
  rw [region?, h.indexed, List.find?_eq_bind_findIdx?_getElem?]

theorem region?_eq_none_iff (h : LaidOut space) (kind : RegionKind) :
    space.region? kind = none ↔ ∀ region ∈ space.regions, region.kind ≠ kind := by
  rw [h.region?_eq, List.find?_eq_none]
  simp only [beq_iff_eq, ne_eq]

theorem relayout_eq (h : LaidOut space) : space.relayout = .ok space := by
  have hCheck : checkFrom 0 space.regions = .ok () := by
    rw [checkFrom_eq_ok_iff (Nat.zero_le _), Nat.zero_add]
    exact ⟨h.occupied, h.fits⟩
  rw [relayout, hCheck, layFrom_eq_self h.starts]

end LaidOut

theorem findIdx?_kind_congr {regions others : List Region}
    (h : regions.map Region.kind = others.map Region.kind) (kind : RegionKind) :
    (regions.findIdx? fun region => region.kind == kind) =
      others.findIdx? fun region => region.kind == kind := by
  have hMap (list : List Region) : (list.findIdx? fun region => region.kind == kind) =
      (list.map Region.kind).findIdx? (· == kind) := by
    rw [List.findIdx?_map]
    rfl
  rw [hMap, hMap, h]

theorem LaidOut.of_outline {space after : AddressSpace} (h : LaidOut space)
    (hOutline : after.regions.map Region.outline = space.regions.map Region.outline)
    (hFirsts : after.firsts = space.firsts) : LaidOut after := by
  have hSizes : after.regions.map Region.size = space.regions.map Region.size := by
    have := congrArg (List.map fun outline => outline.2.2) hOutline
    rwa [List.map_map, List.map_map] at this
  have hKinds : after.regions.map Region.kind = space.regions.map Region.kind := by
    have := congrArg (List.map fun outline => outline.1) hOutline
    rwa [List.map_map, List.map_map] at this
  have hOld : ∀ (i : Nat) (region : Region), after.regions[i]? = some region →
      ∃ old : Region, space.regions[i]? = some old ∧ region.base = old.base ∧
        region.size = old.size := by
    intro i region hRegion
    have hSame := congrArg (fun outlines => outlines[i]?) hOutline
    simp only [List.getElem?_map, hRegion, Option.map_some] at hSame
    obtain ⟨old, hOld, hEq⟩ := Option.map_eq_some_iff.mp hSame.symm
    simp only [Region.outline, Prod.mk.injEq] at hEq
    exact ⟨old, hOld, hEq.2.1.symm, hEq.2.2.symm⟩
  constructor
  case starts =>
    intro i region hRegion
    obtain ⟨old, hOld, hBase, _⟩ := hOld i region hRegion
    rw [hBase, h.starts i old hOld]
    apply extent_congr
    rw [List.map_take, List.map_take, hSizes]
  case occupied =>
    intro region hRegion
    obtain ⟨i, hRegion⟩ := List.mem_iff_getElem?.mp hRegion
    obtain ⟨old, hOld, _, hSize⟩ := hOld i region hRegion
    rw [hSize]
    exact h.occupied old (List.mem_of_getElem? hOld)
  case fits =>
    rw [extent_congr hSizes]
    exact h.fits
  case indexed =>
    intro kind
    rw [hFirsts, h.indexed kind]
    exact (findIdx?_kind_congr hKinds kind).symm

theorem map_modify_of_eq {β : Type} {f : Region → β} {change : Region → Region}
    (hChange : ∀ region, f (change region) = f region) (regions : List Region) (i : Nat) :
    (regions.modify i change).map f = regions.map f := by
  apply List.ext_getElem?
  intro j
  rw [List.getElem?_map, List.getElem?_modify, List.getElem?_map, Option.map_eq_map, Option.map_map]
  congr 1
  funext region
  rw [Function.comp_apply]
  split
  · exact hChange region
  · rfl

theorem LaidOut.modify {space : AddressSpace} (h : LaidOut space) {change : Region → Region}
    (hChange : ∀ region : Region, (change region).outline = region.outline) (i : Nat) :
    LaidOut { space with regions := space.regions.modify i change } :=
  h.of_outline (map_modify_of_eq hChange space.regions i) rfl

theorem LaidOut.map {space : AddressSpace} (h : LaidOut space) {change : Region → Region}
    (hChange : ∀ region : Region, (change region).outline = region.outline) :
    LaidOut { space with regions := space.regions.map change } := by
  refine h.of_outline ?_ rfl
  rw [List.map_map]
  exact List.map_congr_left fun region _ => hChange region

theorem laidOut_layFrom {regions : List Region} {firsts : RegionKind → Option Nat}
    (hOccupied : ∀ region ∈ regions, 0 < region.size) (hFits : extent regions ≤ addressLimit)
    (hIndexed : ∀ kind, firsts kind = regions.findIdx? fun region => region.kind == kind) :
    LaidOut ⟨layFrom 0 regions, firsts⟩ where
  starts i region hRegion := by
    rw [getElem?_layFrom, Option.map_eq_some_iff] at hRegion
    obtain ⟨old, hOld, rfl⟩ := hRegion
    have hBelow : extent (regions.take i) < addressLimit := by
      have hPos := hOccupied old (List.mem_of_getElem? hOld)
      have hEnd := extent_take_le regions (i + 1)
      rw [extent_take_succ hOld] at hEnd
      omega
    rw [extent_take_layFrom, Nat.zero_add]
    exact UInt32.toNat_ofNat_of_lt' hBelow
  occupied region hRegion := by
    obtain ⟨i, hRegion⟩ := List.mem_iff_getElem?.mp hRegion
    rw [getElem?_layFrom, Option.map_eq_some_iff] at hRegion
    obtain ⟨old, hOld, rfl⟩ := hRegion
    exact hOccupied old (List.mem_of_getElem? hOld)
  fits := by rwa [extent_layFrom]
  indexed kind :=
    (hIndexed kind).trans (findIdx?_kind_congr (map_kind_layFrom 0 regions) kind).symm

theorem noteFirst_eq {regions : List Region} {firsts : RegionKind → Option Nat}
    (hIndexed : ∀ kind, firsts kind = regions.findIdx? fun region => region.kind == kind)
    (region : Region) (kind : RegionKind) :
    noteFirst firsts region.kind regions.length kind =
      (regions ++ [region]).findIdx? fun other => other.kind == kind := by
  rw [noteFirst, List.findIdx?_append, List.findIdx?_singleton]
  by_cases hKind : kind = region.kind
  · subst hKind
    rw [if_pos rfl, hIndexed]
    cases regions.findIdx? fun other => other.kind == region.kind with
    | none => simp
    | some i => simp
  · rw [if_neg hKind, hIndexed]
    have hOther : (region.kind == kind) = false := beq_eq_false_iff_ne.mpr (Ne.symm hKind)
    simp [hOther]

namespace LaidOut
variable {space : AddressSpace} {region : Region}

theorem install_eq (h : LaidOut space) (hSize : region.size < sizeLimit) :
    space.install region =
      if region.size = 0 then .error (.zeroSize region.kind)
      else if addressLimit < extent space.regions + region.size then
        .error (.addressOverflow region.kind (extent space.regions) region.size)
      else
        .ok
          { regions := space.regions ++ [region.moveTo (UInt32.ofNat (extent space.regions))]
            firsts := noteFirst space.firsts region.kind space.regions.length } := by
  rw [install, checkFit_eq h.nextBase_le hSize, h.nextBase_eq]
  by_cases hZero : region.size = 0
  · simp only [if_pos hZero]
  · by_cases hEnd : addressLimit < extent space.regions + region.size
    · simp only [if_neg hZero, if_pos hEnd]
    · simp only [if_neg hZero, if_neg hEnd]

theorem of_install (h : LaidOut space) (hSize : region.size < sizeLimit) {after : AddressSpace}
    (hAfter : space.install region = .ok after) : LaidOut after := by
  rw [h.install_eq hSize] at hAfter
  split at hAfter
  · cases hAfter
  · rename_i hPos
    split at hAfter
    · cases hAfter
    · rename_i hEnd
      cases hAfter
      -- the regions before the new one lie where laying all of them out would put them
      have hLaid : space.regions ++ [region.moveTo (UInt32.ofNat (extent space.regions))] =
          layFrom 0 (space.regions ++ [region]) := by
        rw [layFrom_append, layFrom_eq_self h.starts, Nat.zero_add]
        rfl
      rw [hLaid]
      apply laidOut_layFrom
      · intro other hOther
        rcases List.mem_append.mp hOther with hOld | hNew
        · exact h.occupied other hOld
        · rw [List.mem_singleton.mp hNew]
          omega
      · rw [extent_append, extent_cons, extent_nil]
        omega
      · exact noteFirst_eq h.indexed region

theorem exists_install (h : LaidOut space) (hSize : region.size < sizeLimit)
    (hOccupied : 0 < region.size) (hFits : extent space.regions + region.size ≤ addressLimit) :
    ∃ after, space.install region = .ok after ∧ LaidOut after ∧
      extent after.regions = extent space.regions + region.size := by
  have hInstall := h.install_eq hSize
  rw [if_neg (Nat.ne_of_gt hOccupied), if_neg (Nat.not_lt.mpr hFits)] at hInstall
  refine ⟨_, hInstall, h.of_install hSize hInstall, ?_⟩
  rw [extent_append, extent_cons, extent_nil, Region.size_moveTo, Nat.add_zero]

end LaidOut

theorem map_unplaced_install {space after : AddressSpace} {region : Region}
    (hAfter : space.install region = .ok after) :
    after.regions.map Region.unplaced =
      space.regions.map Region.unplaced ++ [region.unplaced] := by
  rw [install] at hAfter
  split at hAfter
  · cases hAfter
  · cases hAfter
    rw [List.map_append, List.map_singleton, Region.unplaced_moveTo]

theorem exists_of_install_bind {space after : AddressSpace} {region : Region}
    {next : AddressSpace → Except MemoryError AddressSpace}
    (h : (space.install region >>= next) = .ok after) :
    ∃ middle, space.install region = .ok middle ∧ next middle = .ok after := by
  cases hMiddle : space.install region with
  | error e =>
    rw [hMiddle] at h
    cases h
  | ok middle =>
    rw [hMiddle] at h
    exact ⟨middle, rfl, h⟩

theorem LaidOut.exists_bind_install {space : AddressSpace} (h : LaidOut space) {region : Region}
    (hSize : region.size < sizeLimit) (hOccupied : 0 < region.size)
    (hFits : extent space.regions + region.size ≤ addressLimit)
    {next : AddressSpace → Except MemoryError AddressSpace}
    (hNext : ∀ after, LaidOut after → extent after.regions = extent space.regions + region.size →
      ∃ final, next after = .ok final) :
    ∃ final, (space.install region >>= next) = .ok final := by
  obtain ⟨after, hAfter, hLaid, hExtent⟩ := h.exists_install hSize hOccupied hFits
  rw [hAfter]
  exact hNext after hLaid hExtent

theorem map_unplaced_relayout {space after : AddressSpace} (hAfter : space.relayout = .ok after) :
    after.regions.map Region.unplaced = space.regions.map Region.unplaced := by
  rw [relayout] at hAfter
  split at hAfter
  · cases hAfter
  · cases hAfter
    exact map_unplaced_layFrom 0 space.regions

theorem firsts_relayout {space after : AddressSpace} (h : space.relayout = .ok after) :
    after.firsts = space.firsts := by
  rw [relayout] at h
  split at h
  · cases h
  · cases h
    rfl

theorem laidOut_of_relayout {space after : AddressSpace}
    (hIndexed : ∀ kind, space.firsts kind =
      space.regions.findIdx? fun region => region.kind == kind)
    (hAfter : space.relayout = .ok after) : LaidOut after := by
  rw [relayout] at hAfter
  split at hAfter
  · cases hAfter
  · rename_i hCheck
    cases hAfter
    obtain ⟨hOccupied, hFits⟩ := (checkFrom_eq_ok_iff (Nat.zero_le _)).mp hCheck
    exact laidOut_layFrom hOccupied (by omega) hIndexed

namespace LaidOut
variable {space : AddressSpace} {region : Region}

theorem getElem?_firsts (h : LaidOut space) {kind : RegionKind} {i : Nat}
    (hFirst : space.firsts kind = some i) :
    ∃ old, space.regions[i]? = some old ∧ old.kind = kind := by
  rw [h.indexed, List.findIdx?_eq_some_iff_getElem] at hFirst
  obtain ⟨hLength, hKind, _⟩ := hFirst
  exact ⟨space.regions[i], List.getElem?_eq_getElem hLength, beq_iff_eq.mp hKind⟩

theorem indexed_setRegion (h : LaidOut space) {i : Nat} {old : Region}
    (hOld : space.regions[i]? = some old) (hKind : region.kind = old.kind) (kind : RegionKind) :
    (space.setRegion i region).firsts kind =
      (space.setRegion i region).regions.findIdx? fun other => other.kind == kind := by
  have hKinds : space.regions.map Region.kind = (space.regions.set i region).map Region.kind := by
    obtain ⟨hLength, hGet⟩ := List.getElem?_eq_some_iff.mp hOld
    rw [List.map_set, hKind, ← hGet, ← List.getElem_map Region.kind, List.set_getElem_self]
    rwa [List.length_map]
  exact (h.indexed kind).trans (findIdx?_kind_congr hKinds kind)

theorem setRegion_setRegion {i : Nat} {old : Region} (hOld : space.regions[i]? = some old) :
    (space.setRegion i region).setRegion i old = space := by
  obtain ⟨hLength, hGet⟩ := List.getElem?_eq_some_iff.mp hOld
  simp only [setRegion, List.set_set]
  rw [← hGet, List.set_getElem_self]

theorem replace_eq (h : LaidOut space) {i : Nat} {old : Region}
    (hFirst : space.firsts region.kind = some i) (hOld : space.regions[i]? = some old) :
    space.replace region =
      match (space.setRegion i region).relayout with
      | .ok laid => (laid, .ok old)
      | .error e => (if e.stopsProgram then space.setRegion i region else space, .error e) := by
  have hRegion : space.region? region.kind = some old := by
    rw [region?, hFirst, Option.bind_some, hOld]
  rw [replace, hFirst, hRegion]
  cases hLaid : (space.setRegion i region).relayout with
  | ok laid => simp only [hLaid]
  | error e =>
    simp only [hLaid, setRegion_setRegion hOld, h.relayout_eq]
    split
    · rfl
    · rfl

theorem replace_of_none (hFirst : space.firsts region.kind = none) :
    space.replace region = (space, .error (.missing region.kind)) := by
  rw [replace, hFirst]

/-- A replacement finds no region of the kind, lays all regions out with the new one among them, or
gives up with the error of that layout. -/
theorem replace_cases (h : LaidOut space) (region : Region) :
    space.firsts region.kind = none ∧
        space.replace region = (space, .error (.missing region.kind)) ∨
      ∃ i old, space.firsts region.kind = some i ∧ space.regions[i]? = some old ∧
        old.kind = region.kind ∧
        ((∃ laid, (space.setRegion i region).relayout = .ok laid ∧
            space.replace region = (laid, .ok old)) ∨
          ∃ e, (space.setRegion i region).relayout = .error e ∧
            space.replace region =
              (if e.stopsProgram then space.setRegion i region else space, .error e)) := by
  cases hFirst : space.firsts region.kind with
  | none => exact .inl ⟨rfl, replace_of_none hFirst⟩
  | some i =>
    obtain ⟨old, hOld, hKind⟩ := h.getElem?_firsts hFirst
    refine .inr ⟨i, old, rfl, hOld, hKind, ?_⟩
    rw [h.replace_eq hFirst hOld]
    cases (space.setRegion i region).relayout with
    | ok laid => exact .inl ⟨laid, rfl, rfl⟩
    | error e => exact .inr ⟨e, rfl, rfl⟩

theorem map_unplaced_replace (h : LaidOut space) {i : Nat} {old : Region}
    (hFirst : space.firsts region.kind = some i) (hOk : (space.replace region).2 = .ok old) :
    (space.replace region).1.regions.map Region.unplaced =
      (space.regions.map Region.unplaced).set i region.unplaced := by
  obtain ⟨found, hFound, _⟩ := h.getElem?_firsts hFirst
  rw [h.replace_eq hFirst hFound] at hOk ⊢
  cases hLaid : (space.setRegion i region).relayout with
  | error e =>
    rw [hLaid] at hOk
    cases hOk
  | ok laid => exact (map_unplaced_relayout hLaid).trans List.map_set

theorem of_replace_of_ok (h : LaidOut space) {old : Region}
    (hOk : (space.replace region).2 = .ok old) : LaidOut (space.replace region).1 := by
  obtain ⟨-, hReplace⟩ | ⟨i, found, -, hFound, hKind, ⟨laid, hLaid, hReplace⟩ | ⟨e, -, hReplace⟩⟩ :=
    h.replace_cases region
  · rw [hReplace]
    exact h
  · rw [hReplace]
    exact laidOut_of_relayout (h.indexed_setRegion hFound hKind.symm) hLaid
  · rw [hReplace] at hOk
    cases hOk

theorem replace_of_error (h : LaidOut space) {e : MemoryError}
    (hError : (space.replace region).2 = .error e) (hGo : e.stopsProgram = false) :
    (space.replace region).1 = space := by
  obtain ⟨-, hReplace⟩ | ⟨i, old, -, -, -, ⟨laid, -, hReplace⟩ | ⟨found, -, hReplace⟩⟩ :=
    h.replace_cases region
  · rw [hReplace]
  · rw [hReplace] at hError
    cases hError
  · rw [hReplace] at hError ⊢
    cases hError
    simp [hGo]

theorem size_lt_of_setRegion (h : LaidOut space) (hSize : region.size < sizeLimit) (i : Nat) :
    ∀ other ∈ (space.setRegion i region).regions, other.size < sizeLimit := by
  intro other hOther
  obtain hOld | rfl := List.mem_or_eq_of_mem_set hOther
  · exact h.size_lt hOld
  · exact hSize

theorem goesOn_relayout (h : LaidOut space) (hSize : region.size < sizeLimit) {i : Nat}
    {e : MemoryError} (hError : (space.setRegion i region).relayout = .error e) :
    e.stopsProgram = false := by
  rw [← Bool.not_eq_true]
  intro hStops
  exact not_overflows_of_lt (h.size_lt_of_setRegion hSize i)
    (overflows_iff.mpr ⟨e, relayout_eq_error_iff_checkFrom.mp hError, hStops⟩)

theorem goesOn_replace (h : LaidOut space) (hSize : region.size < sizeLimit) {e : MemoryError}
    (hError : (space.replace region).2 = .error e) : e.stopsProgram = false := by
  obtain ⟨-, hReplace⟩ | ⟨i, old, -, -, -, ⟨laid, -, hReplace⟩ | ⟨found, hLaid, hReplace⟩⟩ :=
    h.replace_cases region
  · rw [hReplace] at hError
    cases hError
    rfl
  · rw [hReplace] at hError
    cases hError
  · rw [hReplace] at hError
    cases hError
    exact h.goesOn_relayout hSize hLaid

theorem of_replace (h : LaidOut space)
    (hGo : ∀ e, (space.replace region).2 = .error e → e.stopsProgram = false) :
    LaidOut (space.replace region).1 := by
  cases hResult : (space.replace region).2 with
  | ok old => exact h.of_replace_of_ok hResult
  | error e =>
    rw [h.replace_of_error hResult (hGo e hResult)]
    exact h

end LaidOut

end AddressSpace
end Handheld

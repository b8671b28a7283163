import Handheld.Proofs.Machine.Exchange
import Mathlib.Logic.Function.Basic

/-! # The sizes of the regions

Whether a region can be exchanged depends on the sizes of all regions alone. A change of the screen
exchanges three of them, one after another, and each exchange has to fit on its own.
-/
set_option autoImplicit false
namespace Handheld
namespace AddressSpace

def measure (region : Region) : RegionKind × Nat := (region.kind, region.size)

theorem map_measure (regions : List Region) :
    regions.map measure =
      (regions.map Region.outline).map fun outline => (outline.1, outline.2.2) := by
  rw [List.map_map]
  rfl

/-- There is one region of each kind, in the order of the kinds, and each has such a size. -/
structure Sized (sizes : RegionKind → Nat) (space : AddressSpace) : Prop where
  laidOut : LaidOut space
  measures_eq : space.regions.map measure = RegionKind.all.map fun kind => (kind, sizes kind)

def total (sizes : RegionKind → Nat) : Nat :=
  sizes .runtime + sizes .graph + sizes .buffer + sizes .text + sizes .string

section Measures
variable {regions : List Region} {sizes : RegionKind → Nat}

theorem extent_of_measures
    (h : regions.map measure = RegionKind.all.map fun kind => (kind, sizes kind)) :
    extent regions = total sizes := by
  have hSum (list : List Region) : extent list = ((list.map measure).map Prod.snd).sum := by
    induction list with
    | nil => rfl
    | cons region rest ih => rw [extent_cons, ih]; rfl
  rw [hSum, h]
  simp [RegionKind.all, total, Nat.add_assoc]

theorem forall_of_measures {P : Nat → Prop}
    (h : regions.map measure = RegionKind.all.map fun kind => (kind, sizes kind)) :
    (∀ region ∈ regions, P region.size) ↔ ∀ kind, P (sizes kind) := by
  have hSizes : regions.map Region.size = RegionKind.all.map sizes := by
    have hSecond := congrArg (List.map Prod.snd) h
    rwa [List.map_map, List.map_map] at hSecond
  rw [← List.forall_mem_map (f := Region.size), hSizes, List.forall_mem_map]
  exact ⟨fun hAll kind => hAll kind kind.mem_all, fun hAll kind _ => hAll kind⟩

end Measures

namespace Sized
variable {sizes : RegionKind → Nat} {space : AddressSpace} {region : Region}

theorem congr (h : Sized sizes space) {others : RegionKind → Nat}
    (hSame : ∀ kind, sizes kind = others kind) : Sized others space := by
  rwa [funext hSame] at h

theorem total_le (h : Sized sizes space) : total sizes ≤ addressLimit := by
  rw [← extent_of_measures h.measures_eq]
  exact h.laidOut.fits

theorem occupied (h : Sized sizes space) (kind : RegionKind) : 0 < sizes kind :=
  (forall_of_measures h.measures_eq).mp h.laidOut.occupied kind

theorem of_outline (h : Sized sizes space) {after : AddressSpace}
    (hOutline : after.regions.map Region.outline = space.regions.map Region.outline)
    (hFirsts : after.firsts = space.firsts) : Sized sizes after := by
  refine ⟨h.laidOut.of_outline hOutline hFirsts, ?_⟩
  rw [map_measure, hOutline, ← map_measure]
  exact h.measures_eq

theorem firsts_eq (h : Sized sizes space) (kind : RegionKind) :
    space.firsts kind = some kind.place := by
  have hKinds : space.regions.map Region.kind = RegionKind.all := by
    have hFirst := congrArg (List.map Prod.fst) h.measures_eq
    rw [List.map_map, List.map_map] at hFirst
    exact hFirst
  have hFind : (space.regions.findIdx? fun region => region.kind == kind) =
      (space.regions.map Region.kind).findIdx? (· == kind) := by
    rw [List.findIdx?_map]
    rfl
  rw [h.laidOut.indexed, hFind, hKinds]
  cases kind
  all_goals rfl

theorem measures_setRegion (h : Sized sizes space) (region : Region) :
    (space.setRegion region.kind.place region).regions.map measure =
      RegionKind.all.map fun kind => (kind, Function.update sizes region.kind region.size kind) := by
  rw [setRegion, List.map_set, h.measures_eq]
  rw [measure]
  cases region.kind
  all_goals simp [RegionKind.all, RegionKind.place, Function.update]

theorem exchange_fault_iff (h : Sized sizes space) :
    (space.exchange region).fault = none ↔
      0 < region.size ∧ total (Function.update sizes region.kind region.size) ≤ addressLimit := by
  have hFirst := h.firsts_eq region.kind
  obtain ⟨old, hOld, -⟩ := h.laidOut.getElem?_firsts hFirst
  have hMeasures := h.measures_setRegion region
  have hCheck : checkFrom 0 (space.setRegion region.kind.place region).regions = .ok () ↔
      0 < region.size ∧ total (Function.update sizes region.kind region.size) ≤ addressLimit := by
    rw [checkFrom_eq_ok_iff (Nat.zero_le _), Nat.zero_add, extent_of_measures hMeasures,
      forall_of_measures hMeasures]
    refine and_congr_left fun _ => ⟨fun hAll => ?_, fun hPos kind => ?_⟩
    · simpa using hAll region.kind
    · by_cases hKind : kind = region.kind
      · subst hKind
        simpa using hPos
      · rw [Function.update_of_ne hKind]
        exact h.occupied kind
  rw [← hCheck, exchange, h.laidOut.replace_eq hFirst hOld, relayout]
  cases checkFrom 0 (space.setRegion region.kind.place region).regions with
  | error e => simp [Attempt.stopped]
  | ok _ => simp [Attempt.done]

theorem exchange (h : Sized sizes space) (hSize : region.size < sizeLimit)
    (hOk : (space.exchange region).fault = none) :
    Sized (Function.update sizes region.kind region.size) (space.exchange region).state := by
  refine ⟨h.laidOut.of_exchange hSize, ?_⟩
  obtain ⟨i, laid, hFirst, hLaid, hDone⟩ := h.laidOut.exchange_of_ok hOk
  rw [h.firsts_eq, Option.some_inj] at hFirst
  subst hFirst
  have hUnplaced := congrArg (List.map measure) (map_unplaced_relayout hLaid)
  rw [List.map_map, List.map_map] at hUnplaced
  rw [hDone]
  exact hUnplaced.trans (h.measures_setRegion region)

theorem exchange_page (h : Sized sizes space) {size : PixelSize} (hSize : size.InRange)
    {text : PageView} (hText : text.size = size.textCells) :
    ((space.exchange (.ofPage text)).fault = none ↔ 0 < size.textCells ∧
      total (Function.update sizes .text size.textCells) ≤ addressLimit) ∧
    ((space.exchange (.ofPage text)).fault = none →
      Sized (Function.update sizes .text size.textCells) (space.exchange (.ofPage text)).state) := by
  have hLimit : (Region.ofPage text).size < sizeLimit :=
    Nat.lt_of_le_of_lt (Nat.le_of_eq hText) hSize.textCells_lt
  rw [← hText]
  exact ⟨h.exchange_fault_iff, h.exchange hLimit⟩

theorem exchange_picture (h : Sized sizes space) {size : PixelSize} (hSize : size.InRange)
    (kind : RegionKind) :
    ((space.exchange (.ofSize kind size.bitmapBytes)).fault = none ↔ 0 < size.bitmapBytes ∧
      total (Function.update sizes kind size.bitmapBytes) ≤ addressLimit) ∧
    ((space.exchange (.ofSize kind size.bitmapBytes)).fault = none →
      Sized (Function.update sizes kind size.bitmapBytes)
        (space.exchange (.ofSize kind size.bitmapBytes)).state) := by
  have hRegion : (Region.ofSize kind size.bitmapBytes).size = size.bitmapBytes :=
    Array.size_replicate
  have hLimit : (Region.ofSize kind size.bitmapBytes).size < sizeLimit := by
    rw [hRegion]
    exact hSize.bitmapBytes_lt
  have hFault := @exchange_fault_iff _ _ (.ofSize kind size.bitmapBytes) h
  have hSized := h.exchange hLimit
  rw [hRegion] at hFault hSized
  exact ⟨hFault, hSized⟩

/-- The new text page has to fit in beside two old pictures, and then beside two new ones. Between
these the memory holds one of each, which is half way in size as well. -/
theorem fitScreen_spec (h : Sized sizes space) (hPictures : sizes .graph = sizes .buffer)
    {size : PixelSize} (hSize : size.InRange) {text : PageView}
    (hText : text.size = size.textCells) :
    ((space.fitScreen size text).fault = none ↔
      (0 < size.textCells ∧ 0 < size.bitmapBytes) ∧
      sizes .runtime + 2 * sizes .graph + size.textCells + sizes .string ≤ addressLimit ∧
      sizes .runtime + 2 * size.bitmapBytes + size.textCells + sizes .string ≤ addressLimit) ∧
    ((space.fitScreen size text).fault = none →
      Sized (Function.update (Function.update (Function.update sizes .text size.textCells)
        .graph size.bitmapBytes) .buffer size.bitmapBytes) (space.fitScreen size text).state) := by
  obtain ⟨hPageIff, hPage⟩ := h.exchange_page hSize hText
  have hPicture {others : RegionKind → Nat} {after : AddressSpace} (hAfter : Sized others after)
      (kind : RegionKind) := hAfter.exchange_picture hSize kind
  have hParts : (space.fitScreen size text).fault = none ↔
      (space.exchange (.ofPage text)).fault = none ∧
      ((space.exchange (.ofPage text)).state.exchange
        (.ofSize .graph size.bitmapBytes)).fault = none ∧
      (((space.exchange (.ofPage text)).state.exchange
        (.ofSize .graph size.bitmapBytes)).state.exchange
          (.ofSize .buffer size.bitmapBytes)).fault = none := by
    rw [AddressSpace.fitScreen, Attempt.andThen_fault_eq_none_iff,
      Attempt.andThen_fault_eq_none_iff]
  constructor
  · refine hParts.trans ⟨?_, ?_⟩
    · rintro ⟨hOk₁, hOk₂, hOk₃⟩
      have hGraph := (hPicture (hPage hOk₁) .graph).2 hOk₂
      have hFirst := hPageIff.mp hOk₁
      have hLast := (hPicture hGraph .buffer).1.mp hOk₃
      simp [total] at hFirst hLast
      omega
    · rintro ⟨⟨hCells, hPixels⟩, hBeside, hLast⟩
      have hOk₁ : (space.exchange (.ofPage text)).fault = none := by
        rw [hPageIff]
        simp [total]
        omega
      have hGraph := hPicture (hPage hOk₁) .graph
      have hOk₂ := hGraph.1.mpr (by simp [total]; omega)
      refine ⟨hOk₁, hOk₂, ?_⟩
      rw [(hPicture (hGraph.2 hOk₂) .buffer).1]
      simp [total]
      omega
  · intro hOk
    obtain ⟨hOk₁, hOk₂, hOk₃⟩ := hParts.mp hOk
    rw [AddressSpace.fitScreen, Attempt.andThen_of_fault_eq_none hOk₁,
      Attempt.andThen_of_fault_eq_none hOk₂]
    have hGraph := (hPicture (hPage hOk₁) .graph).2 hOk₂
    exact (hPicture hGraph .buffer).2 hOk₃

end Sized
end AddressSpace
end Handheld

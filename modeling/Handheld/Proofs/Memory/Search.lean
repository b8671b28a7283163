import Handheld.Proofs.Memory.Layout

/-! # Finding the region of an address

In a laid-out space the search by halving finds the region that holds an address whenever there
is one, and there is one exactly for the addresses below the total.
-/
set_option autoImplicit false
namespace Handheld.AddressSpace

theorem side_eq_iff (addr : UInt32) (region : Region) :
    side addr region = .eq ↔ region.Contains addr := by
  rw [side, Region.Contains]
  split
  · simp; omega
  · split
    · simp; omega
    · simp; omega

theorem startsAbove_some (addr : UInt32) (region : Region) :
    startsAbove addr (some region) = decide (addr.toNat < region.base.toNat) := by
  rw [startsAbove, side]
  split
  · simp [*]
  · split
    · simp [*]
    · simp [*]

namespace LaidOut
variable {space : AddressSpace} {region : Region} {addr : UInt32} {i : Nat}

theorem startsAbove_eq (h : LaidOut space) (hRegion : space.regions[i]? = some region)
    (hAddr : region.Contains addr) {j : Nat} (hj : j < space.regions.length) :
    startsAbove addr space.regions[j]? = decide (i < j) := by
  rw [List.getElem?_eq_getElem hj, startsAbove_some]
  have hOther := h.starts j _ (List.getElem?_eq_getElem hj)
  have hBase := h.starts i region hRegion
  have hLimit := h.limit_eq hRegion
  obtain ⟨hLow, hHigh⟩ := hAddr
  rw [decide_eq_decide, hOther]
  constructor
  · intro hAbove
    apply Nat.lt_of_not_le
    intro hji
    have hMono := extent_take_mono space.regions hji
    omega
  · intro hij
    have hMono : extent (space.regions.take (i + 1)) ≤ extent (space.regions.take j) :=
      extent_take_mono space.regions hij
    omega

/-- Halving never loses the region that holds the address. -/
theorem narrow_eq (h : LaidOut space) (hRegion : space.regions[i]? = some region)
    (hAddr : region.Contains addr) (start size : Nat) (hStart : start ≤ i)
    (hEnd : i < start + size) (hLength : start + size ≤ space.regions.length) :
    narrow addr space.regions start size = i := by
  induction size using Nat.strongRecOn generalizing start with
  | ind size ih =>
    rw [narrow]
    split
    · omega
    · rename_i hSize
      dsimp only
      rw [h.startsAbove_eq hRegion hAddr (by omega)]
      by_cases hMiddle : i < start + size / 2
      · rw [if_pos (decide_eq_true hMiddle)]
        exact ih (size - size / 2) (by omega) start hStart (by omega) (by omega)
      · rw [if_neg (by simpa using hMiddle)]
        exact ih (size - size / 2) (by omega) (start + size / 2) (by omega) (by omega) (by omega)

theorem find?_eq_some_iff (h : LaidOut space) :
    space.find? addr = some i ↔
      ∃ region, space.regions[i]? = some region ∧ region.Contains addr := by
  constructor
  · intro hFind
    simp only [find?] at hFind
    split at hFind
    · rename_i region hRegion
      split at hFind
      · rename_i hSide
        cases hFind
        exact ⟨region, hRegion, (side_eq_iff addr region).mp hSide⟩
      · cases hFind
    · cases hFind
  · rintro ⟨region, hRegion, hAddr⟩
    have hLength := (List.getElem?_eq_some_iff.mp hRegion).1
    simp only [find?, h.narrow_eq hRegion hAddr 0 space.regions.length (by omega) (by omega)
      (by omega), hRegion, (side_eq_iff addr region).mpr hAddr, if_true]

theorem find?_of_offset (h : LaidOut space) (hRegion : space.regions[i]? = some region)
    {offset : Nat} (hOffset : offset < region.size)
    (hAddr : addr.toNat = region.base.toNat + offset) : space.find? addr = some i := by
  apply h.find?_eq_some_iff.mpr
  refine ⟨region, hRegion, by omega, ?_⟩
  rw [h.limit_eq hRegion, extent_take_succ hRegion, ← h.starts i region hRegion]
  omega

theorem exists_find? (h : LaidOut space) (hAddr : addr.toNat < extent space.regions) :
    ∃ (i : Nat) (region : Region), space.find? addr = some i ∧ space.regions[i]? = some region ∧
      region.Contains addr := by
  obtain ⟨i, region, hRegion, hContains⟩ := h.exists_contains hAddr
  exact ⟨i, region, h.find?_eq_some_iff.mpr ⟨region, hRegion, hContains⟩, hRegion, hContains⟩

end LaidOut

end Handheld.AddressSpace

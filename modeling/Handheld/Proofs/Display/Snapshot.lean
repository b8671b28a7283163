import Handheld.Proofs.Display.Lines

/-! # Displays that show a console

A display shows a console if each of its lines looks like the row of the console there, and blank
below the grid. Displays that show the same console have the same snapshot, whatever bytes their
lines hold.
-/
set_option autoImplicit false
namespace Handheld.Lcd

def shownLine (text : List UInt8) : List Char := trimEnd (text.map shownChar)

theorem shownLine_of_zero {text : List UInt8} (h : ∀ value ∈ text, value = 0) :
    shownLine text = [] := by
  have hBlank : text.map shownChar = List.replicate text.length ' ' := by
    rw [List.eq_replicate_iff, List.length_map]
    refine ⟨rfl, fun shown hShown => ?_⟩
    obtain ⟨value, hValue, rfl⟩ := List.mem_map.mp hShown
    rw [h value hValue]
    rfl
  have hDrop : (List.replicate text.length ' ').dropWhile (· == ' ') = [] := by
    rw [List.dropWhile_replicate]
    rfl
  rw [shownLine, hBlank, trimEnd, List.reverse_replicate, hDrop]
  rfl

structure Shows (lcd : Lcd) (console : Console) : Prop where
  free : lcd.locked = false
  size_eq : lcd.size = console.size
  count_eq : lcd.lines.size = Font.small.rows console.size
  line_eq : ∀ i line, lcd.lines[i]? = some line →
    shownLine line = shownLine (console.rowText i)

variable {lcd other : Lcd} {console : Console}

theorem Shows.snapshot_eq (h : Shows lcd console) (hOther : Shows other console) :
    lcd.snapshot = other.snapshot := by
  have hLines : lcd.lines.toList.map shownLine = other.lines.toList.map shownLine := by
    have hCount : lcd.lines.size = other.lines.size := h.count_eq.trans hOther.count_eq.symm
    apply List.ext_getElem
    · rw [List.length_map, List.length_map, Array.length_toList, Array.length_toList, hCount]
    · intro i hi hi'
      rw [List.length_map, Array.length_toList] at hi hi'
      rw [List.getElem_map, List.getElem_map, Array.getElem_toList, Array.getElem_toList,
        h.line_eq i _ (Array.getElem?_eq_getElem hi),
        hOther.line_eq i _ (Array.getElem?_eq_getElem hi')]
  have hSnapshot (lcd : Lcd) : lcd.snapshot =
      String.join
        ((lcd.lines.toList.map shownLine).map fun line => String.ofList line ++ "\n") := by
    rw [List.map_map]
    rfl
  rw [hSnapshot lcd, hSnapshot other, hLines]

/-- Redrawing keeps the display up to date if the rows that are not drawn still look the same. -/
theorem Shows.present (h : Shows lcd console) {after : Console} (hReaching : after.Reaching)
    (hSize : after.size = console.size) {mask : UInt8}
    (hRedrawn : ∀ i old, shownLine old = shownLine (console.rowText i) →
      shownLine (after.redrawn mask i old) = shownLine (after.rowText i)) :
    ∃ drawn : Lcd, surface.present (after.refreshCalls mask) lcd = .done drawn ∧
      Shows drawn after := by
  obtain ⟨drawn, hPresent, hFree, hDrawnSize, hLines⟩ :=
    present_refreshCalls hReaching h.free (h.size_eq.trans hSize.symm) mask
  refine ⟨drawn, hPresent, hFree, hDrawnSize.trans (h.size_eq.trans hSize.symm), ?_, ?_⟩
  · rw [hLines, Array.size_mapIdx, h.count_eq, hSize]
  · intro i line hLine
    rw [hLines, Array.getElem?_mapIdx, Option.map_eq_some_iff] at hLine
    obtain ⟨old, hOld, rfl⟩ := hLine
    exact hRedrawn i old (h.line_eq i old hOld)

theorem shows_everything_of_reaching (hReaching : console.Reaching) (name : String) :
    ∃ drawn : Lcd,
      surface.present (console.refreshCalls RefreshMask.everything) (ofSize name console.size) =
        .done drawn ∧ Shows drawn console := by
  obtain ⟨drawn, hPresent, hFree, hDrawnSize, hLines⟩ :=
    @present_refreshCalls (ofSize name console.size) console hReaching rfl rfl
      RefreshMask.everything
  refine ⟨drawn, hPresent, hFree, hDrawnSize, ?_, ?_⟩
  · rw [hLines, Array.size_mapIdx]
    exact Array.size_replicate
  · intro i line hLine
    rw [hLines, Array.getElem?_mapIdx, Option.map_eq_some_iff] at hLine
    obtain ⟨old, _, rfl⟩ := hLine
    rw [Console.redrawn_everything]

theorem shows_everything (hSound : console.Sound) (hHeight : console.size.height < heightLimit)
    (name : String) :
    ∃ drawn : Lcd,
      surface.present (console.refreshCalls RefreshMask.everything) (ofSize name console.size) =
        .done drawn ∧ Shows drawn console :=
  shows_everything_of_reaching (hSound.reaching hHeight) name

theorem shows_ofSize (hZero : ∀ value ∈ console.grid.cells, value = 0) (name : String) :
    Shows (ofSize name console.size) console where
  free := rfl
  size_eq := rfl
  count_eq := Array.size_replicate
  line_eq i line hLine := by
    obtain rfl : line = [] := by
      have hMember : line ∈ blankLines console.size := Array.mem_of_getElem? hLine
      exact Array.eq_of_mem_replicate hMember
    have hText : ∀ value ∈ console.rowText i, value = 0 := by
      intro value hValue
      rw [Console.rowText] at hValue
      split at hValue
      · rw [Grid.rowBytes, Array.toList_extract] at hValue
        apply hZero
        rw [← Array.mem_toList_iff]
        exact List.mem_of_mem_drop (List.mem_of_mem_take hValue)
      · cases hValue
    rw [shownLine_of_zero hText]
    rfl

end Handheld.Lcd

import Handheld.Proofs.Display.Lines

/-! # Bands of pixels

A line of the display takes a band of pixel rows as high as the cells of the font, and the first band
begins at the margin of the font. A text is recorded on the line of the band it is drawn in, or on
none. The pixel rows just above the first band are an exception: as many of them as make one more
band, but for the uppermost, count as part of the first line.
-/
set_option autoImplicit false
namespace Handheld

namespace Font

def bandTop (font : Font) (line : Nat) : Int := font.margin + line * font.cellHeight

def InBand (font : Font) (line : Nat) (y : Int) : Prop :=
  font.bandTop line ≤ y ∧ y < font.bandTop (line + 1)

/-- Less than a band above the first line. -/
def JustAbove (font : Font) (y : Int) : Prop :=
  font.bandTop 0 - font.cellHeight < y ∧ y < font.bandTop 0

instance (font : Font) (line : Nat) (y : Int) : Decidable (font.InBand line y) := by
  unfold InBand
  infer_instance

instance (font : Font) (y : Int) : Decidable (font.JustAbove y) := by
  unfold JustAbove
  infer_instance

variable {font : Font} {y : Int}

theorem inBand_iff {line : Nat} :
    font.InBand line y ↔ 0 ≤ y - font.margin ∧ (y - font.margin) / font.cellHeight = line := by
  rw [InBand, bandTop, bandTop]
  cases font with
  | big =>
    simp only [margin, cellHeight]
    omega
  | small =>
    simp only [margin, cellHeight]
    omega

theorem justAbove_iff :
    font.JustAbove y ↔ -font.cellHeight < y - font.margin ∧ y - font.margin < 0 := by
  rw [JustAbove, bandTop]
  omega

end Font

namespace Lcd
variable {lcd : Lcd} {y : Int}

/-- The only height whose distance from the margin may wrap is the lowest one. -/
theorem coordinate_sub_margin (font : Font) (hLow : -0x80000000 < y) (hHigh : y < 0x80000000) :
    coordinate (y - font.margin) = y - font.margin := by
  have hMargin : 0 ≤ font.margin ∧ font.margin ≤ 1 := by
    cases font
    · decide
    · decide
  apply coordinate_of_inRange
  · omega
  · omega

theorem lineAt?_eq_some_iff (hLow : -0x80000000 < y) (hHigh : y < 0x80000000) {line : Nat} :
    lcd.lineAt? y = some line ↔ lcd.font.InBand line y ∨ line = 0 ∧ lcd.font.JustAbove y := by
  rw [lineAt?, coordinate_sub_margin lcd.font hLow hHigh, Font.inBand_iff, Font.justAbove_iff]
  have hCell : (0 : Int) < lcd.font.cellHeight := Int.natCast_pos.mpr lcd.font.cellHeight_pos
  generalize y - lcd.font.margin = distance
  generalize (lcd.font.cellHeight : Int) = cell at hCell
  obtain hInside | hAbove := Int.lt_or_le distance 0 |>.symm
  · have hLine : 0 ≤ distance / cell := Int.ediv_nonneg hInside (Int.le_of_lt hCell)
    rw [Int.tdiv_eq_ediv_of_nonneg hInside]
    simp only [hLine, if_true, Option.some.injEq]
    omega
  · -- the quotient of the distance without its sign, and only zero has none
    have hQuotient : distance.tdiv cell = -(-distance / cell) := by
      rw [← Int.tdiv_eq_ediv_of_nonneg (by omega), Int.neg_tdiv, Int.neg_neg]
    rw [hQuotient]
    by_cases hNear : -distance < cell
    · rw [Int.ediv_eq_zero_of_lt (by omega) hNear, if_pos (by decide), Option.some_inj]
      omega
    · have hFar : 1 ≤ -distance / cell := (Int.le_ediv_iff_mul_le hCell).mpr (by omega)
      rw [if_neg (by omega)]
      simp only [reduceCtorEq, false_iff]
      omega

theorem setLine_of_lineAt? {line : Nat} (h : lcd.lineAt? y = some line) (text : List UInt8) :
    lcd.setLine y text = { lcd with lines := lcd.lines.setIfInBounds line text } := by
  rw [setLine, h]

theorem setLine_of_lineAt?_eq_none (h : lcd.lineAt? y = none) (text : List UInt8) :
    lcd.setLine y text = lcd := by
  rw [setLine, h]

/-- A text replaces the line in whose band it is drawn, and nothing else. Outside the bands of all
lines it changes nothing, unless it is drawn just above the first band: there it replaces the first
line. -/
theorem recorded_of_text (lcd : Lcd) (x : Int) {y : Int} (hLow : -0x80000000 < y)
    (hHigh : y < 0x80000000) (text : List UInt8) :
    let after := lcd.draw (.line x y text)
    (∀ line (hLine : line < lcd.lines.size), lcd.font.InBand line y →
      after = { lcd with lines := lcd.lines.set line text hLine }) ∧
    ((∀ line < lcd.lines.size, ¬ lcd.font.InBand line y) → ¬ lcd.font.JustAbove y → after = lcd) ∧
    (lcd.font.JustAbove y → after = { lcd with lines := lcd.lines.setIfInBounds 0 text }) := by
  intro after
  refine ⟨fun line hLine hBand => ?_, fun hOutside hFar => ?_, fun hNear => ?_⟩
  · have hFound := (lineAt?_eq_some_iff hLow hHigh).mpr (.inl hBand)
    have hSet : lcd.lines.setIfInBounds line text = lcd.lines.set line text hLine := dif_pos hLine
    rw [← hSet]
    exact setLine_of_lineAt? hFound text
  · cases hFound : lcd.lineAt? y with
    | none => exact setLine_of_lineAt?_eq_none hFound text
    | some line =>
      obtain hBand | ⟨-, hNear⟩ := (lineAt?_eq_some_iff hLow hHigh).mp hFound
      · have hBelow : lcd.lines.size ≤ line := Nat.le_of_not_lt fun hLine => hOutside line hLine hBand
        refine (setLine_of_lineAt? hFound text).trans ?_
        rw [Array.setIfInBounds_eq_of_size_le hBelow]
      · exact absurd hNear hFar
  · have hFound := (lineAt?_eq_some_iff hLow hHigh).mpr (.inr ⟨rfl, hNear⟩)
    exact setLine_of_lineAt? hFound text

/-- Two lines in the small font, whose first band begins at the margin of one pixel row. A text drawn
on the upper edge is not in a band and still comes out on the first line. -/
theorem recorded_of_upperEdge :
    let lcd := ofSize "lcd" ⟨6, 26⟩
    lcd.font.InBand 1 14 ∧ (lcd.draw (.line 0 14 [0x61])).lines = #[[], [0x61]] ∧
    (∀ line < lcd.lines.size, ¬ lcd.font.InBand line 0) ∧ lcd.font.JustAbove 0 ∧
    (lcd.draw (.line 0 0 [0x61])).lines = #[[0x61], []] ∧
    (∀ line < lcd.lines.size, ¬ lcd.font.InBand line (-12)) ∧ ¬ lcd.font.JustAbove (-12) ∧
    lcd.draw (.line 0 (-12) [0x61]) = lcd := by
  intro lcd
  have hBand : lcd.font.InBand 1 14 := by decide
  have hEdge : lcd.font.JustAbove 0 := by decide
  have hOutside : ∀ line < lcd.lines.size, ¬ lcd.font.InBand line (-12) := by decide
  have hFar : ¬ lcd.font.JustAbove (-12) := by decide
  obtain ⟨hInside, -, -⟩ := recorded_of_text lcd 0 (by decide) (by decide : (14 : Int) < _) [0x61]
  obtain ⟨-, -, hAbove⟩ := recorded_of_text lcd 0 (by decide) (by decide : (0 : Int) < _) [0x61]
  obtain ⟨-, hNone, -⟩ := recorded_of_text lcd 0 (by decide) (by decide : (-12 : Int) < _) [0x61]
  refine ⟨hBand, ?_, by decide, hEdge, ?_, hOutside, hFar, hNone hOutside hFar⟩
  · exact congrArg Lcd.lines (hInside 1 (by decide) hBand)
  · exact congrArg Lcd.lines (hAbove hEdge)

end Lcd
end Handheld

import Handheld.Proofs.Display.Snapshot

/-! # Tall screens

A height from two to the thirty-first on comes out as a negative coordinate, where the display has
no line. So a console of any height looks on the display as if it had only the rows above.
-/
set_option autoImplicit false
namespace Handheld

def Font.reachedRows (font : Font) : Nat := (heightLimit + font.cellHeight - 1) / font.cellHeight

theorem Font.lt_reachedRows_iff {font : Font} {row : Nat} :
    row < font.reachedRows ↔ row * font.cellHeight < heightLimit := by
  cases font with
  | big =>
    simp only [reachedRows, cellHeight, heightLimit]
    omega
  | small =>
    simp only [reachedRows, cellHeight, heightLimit]
    omega

theorem Lcd.lineAt?_rowTop_eq_none {lcd : Lcd} {font : Font} {row : Nat}
    (hMode : lcd.mode = Console.textMode font) (hTop : heightLimit ≤ row * font.cellHeight)
    (hEnd : (row + 1) * font.cellHeight < 0x100000000) :
    lcd.lineAt? (Console.rowTop font row) = none := by
  have hCoordinate : coordinate (row * font.cellHeight) =
      -((0x100000000 - row * font.cellHeight : Nat) : Int) := by
    rw [Nat.succ_mul] at hEnd
    rw [heightLimit] at hTop
    rw [← Int.natCast_mul]
    simp only [coordinate, Int.bmod]
    omega
  have hRows : 0 < (0x100000000 - row * font.cellHeight) / font.cellHeight := by
    rw [Nat.succ_mul] at hEnd
    exact Nat.div_pos (by omega) font.cellHeight_pos
  rw [lineAt?_eq hMode, hCoordinate, Int.neg_tdiv, ← Int.ofNat_tdiv]
  exact if_neg (by omega)

namespace Console

/-- The console as far as the display has lines for it. -/
def reached (console : Console) : Console :=
  { console with
    grid := { console.grid with rows := min console.grid.rows console.font.reachedRows } }

variable (console : Console)

theorem reaching_reached : console.reached.Reaching := fun _ hRow =>
  Font.lt_reachedRows_iff.mp (Nat.lt_of_lt_of_le hRow (Nat.min_le_right _ _))

theorem rowText_reached (row : Nat) :
    console.reached.rowText row =
      if row < console.font.reachedRows then console.rowText row else [] := by
  have hRows : console.reached.grid.rows = min console.grid.rows console.font.reachedRows := rfl
  rw [rowText, rowText, hRows]
  by_cases hReached : row < console.font.reachedRows
  · rw [if_pos hReached]
    exact ite_congr (propext (by omega)) (fun _ => rfl) fun _ => rfl
  · rw [if_neg hReached]
    exact if_neg (by omega)

theorem redrawn_reached {row : Nat} (hReached : row < console.font.reachedRows) (mask : UInt8)
    (old : List UInt8) : console.reached.redrawn mask row old = console.redrawn mask row old := by
  have hRows : console.reached.grid.rows = min console.grid.rows console.font.reachedRows := rfl
  rw [redrawn, redrawn, rowText_reached, if_pos hReached, hRows]
  have hAsked : (row < min console.grid.rows console.font.reachedRows ∧
        RefreshMask.draws mask row = true) =
      (row < console.grid.rows ∧ RefreshMask.draws mask row = true) :=
    propext (and_congr_left' (by omega))
  simp only [hAsked]
  rfl

theorem redrawn_of_unreached {row : Nat} (hTop : ¬ row < console.font.reachedRows) (mask : UInt8)
    (old : List UInt8) :
    console.reached.redrawn mask row old = if mask = RefreshMask.everything then [] else old := by
  have hRows : console.reached.grid.rows = min console.grid.rows console.font.reachedRows := rfl
  by_cases hEverything : mask = RefreshMask.everything
  · rw [if_pos hEverything, hEverything, redrawn_everything, rowText_reached, if_neg hTop]
  · rw [if_neg hEverything, redrawn, if_neg hEverything, hRows]
    split
    · rfl
    · exact if_neg (by omega)

end Console

namespace Lcd
variable {lcd : Lcd} {console : Console}

theorem draw_row_of_unreached (hMode : lcd.mode = Console.textMode console.font) {row : Nat}
    (hTop : ¬ row < console.font.reachedRows)
    (hEnd : (row + 1) * console.font.cellHeight < 0x100000000) :
    lcd.draw (console.drawRow row) = lcd := by
  rw [Font.lt_reachedRows_iff, Nat.not_lt] at hTop
  rw [Console.drawRow, draw, setLine, lineAt?_rowTop_eq_none hMode hTop hEnd]

theorem mode_drawAll_rows (rows : List Nat) (lcd : Lcd) :
    (surface.drawAll (rows.map console.drawRow) lcd).mode = lcd.mode := by
  induction rows generalizing lcd with
  | nil => rfl
  | cons row rest ih =>
    refine (ih (lcd.draw (console.drawRow row))).trans ?_
    rw [Console.drawRow, draw, setLine]
    split
    · rfl
    · rfl

theorem drawAll_range (hMode : lcd.mode = Console.textMode console.font) (asked : Nat → Bool)
    {rows : Nat} (hEnd : rows * console.font.cellHeight < 0x100000000) :
    surface.drawAll (((List.range rows).filter asked).map console.drawRow) lcd =
      surface.drawAll
        (((List.range (min rows console.font.reachedRows)).filter asked).map console.drawRow)
        lcd := by
  induction rows with
  | zero => rw [Nat.zero_min]
  | succ rows ih =>
    by_cases hReached : rows < console.font.reachedRows
    · rw [Nat.min_eq_left hReached]
    · have hRest : rows * console.font.cellHeight < 0x100000000 := by
        rw [Nat.succ_mul] at hEnd
        omega
      have hSame : min (rows + 1) console.font.reachedRows =
          min rows console.font.reachedRows := by omega
      rw [hSame, ← ih hRest, List.range_succ, List.filter_append, List.map_append, drawAll_append]
      -- what stands there is in the same mode, and the last row is out of reach
      have hStill := (@mode_drawAll_rows console ((List.range rows).filter asked) lcd).trans hMode
      cases hAsked : asked rows with
      | false =>
        rw [List.filter_cons_of_neg (by simp [hAsked])]
        rfl
      | true =>
        rw [List.filter_cons_of_pos hAsked]
        exact draw_row_of_unreached hStill hReached hEnd

/-- On a screen of any height the display shows the rows within reach. -/
theorem drawAll_reached (hSound : console.Sound) (hHeight : console.size.height < 0x100000000)
    (mask : UInt8) (lcd : Lcd) :
    surface.drawAll (console.refreshCalls mask) lcd =
      surface.drawAll (console.reached.refreshCalls mask) lcd := by
  have hEnd : console.grid.rows * console.font.cellHeight < 0x100000000 := by
    rw [hSound.rows_eq]
    exact Nat.lt_of_le_of_lt (Nat.div_mul_le_self _ _) hHeight
  rw [Console.refreshCalls, Console.refreshCalls]
  by_cases hNothing : mask = RefreshMask.nothing
  · rw [if_pos hNothing, if_pos hNothing]
  · rw [if_neg hNothing, if_neg hNothing, List.append_assoc, List.append_assoc, drawAll_append,
      drawAll_append]
    have hRows (lcd : Lcd) : surface.drawAll (.mode (Console.textMode console.font) ::
          console.drawRows mask) lcd =
        surface.drawAll (.mode (Console.textMode console.font) ::
          console.reached.drawRows mask) lcd :=
      @drawAll_range { lcd with mode := Console.textMode console.font } console rfl _ _ hEnd
    rw [drawAll_append, drawAll_append, hRows]
    rfl

end Lcd
end Handheld

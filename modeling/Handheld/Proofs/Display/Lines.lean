import Handheld.Console.Refresh
import Handheld.Display.Lcd
import Handheld.Proofs.Console.Actions

/-! # Lines on the display

What a drawing session of a console leaves on each line of a line display. The display finds the
line of a text from the height at which it is drawn; below a height of two to the thirty-first no
coordinate wraps and every row comes out on its own line.
-/
set_option autoImplicit false
namespace Handheld

def heightLimit : Nat := 0x80000000

theorem coordinate_of_inRange {n : Int} (hLow : -0x80000000 ≤ n) (hHigh : n < 0x80000000) :
    coordinate n = n := by
  simp only [coordinate, Int.bmod]
  omega

theorem coordinate_of_lt {n : Int} (hPos : 0 ≤ n) (hLt : n < 0x80000000) : coordinate n = n :=
  coordinate_of_inRange (by omega) hLt

theorem coordinate_sub (a b : Int) : coordinate (coordinate a - b) = coordinate (a - b) :=
  Int.bmod_sub_bmod

namespace Font

def top (font : Font) (row : Nat) : Int := font.margin + row * font.cellHeight

theorem top_nonneg (font : Font) (row : Nat) : 0 ≤ font.top row := by
  cases font
  all_goals
    simp only [top, margin, cellHeight]
    omega

theorem cellHeight_pos (font : Font) : 0 < font.cellHeight := by
  cases font
  · decide
  · decide

theorem top_lt {font : Font} {size : PixelSize} {row : Nat} (h : row < font.rows size) :
    row * font.cellHeight < size.height := by
  have hNext : (row + 1) * font.cellHeight ≤ size.height := by
    calc
      (row + 1) * font.cellHeight ≤ font.rows size * font.cellHeight := Nat.mul_le_mul_right _ h
      _ ≤ size.height := Nat.div_mul_le_self _ _
  have := font.cellHeight_pos
  rw [Nat.succ_mul] at hNext
  omega

end Font

/-- A row whose height has no coordinate is drawn two to the thirty-second above it. -/
theorem Console.rowTop_eq {font : Font} {row : Nat} (hTop : font.top row < 0x100000000) :
    rowTop font row =
      if font.top row < heightLimit then font.top row else font.top row - 0x100000000 := by
  have hPos := font.top_nonneg row
  rw [rowTop, ← Font.top]
  simp only [coordinate, Int.bmod, heightLimit]
  omega

namespace Lcd

theorem font_of_mode {lcd : Lcd} {font : Font} (h : lcd.mode = Console.textMode font) :
    lcd.font = font := by
  rw [Lcd.font, h]
  cases font
  · rfl
  · rfl

theorem lineAt?_eq {lcd : Lcd} {font : Font} (hMode : lcd.mode = Console.textMode font)
    (row : Nat) :
    lcd.lineAt? (Console.rowTop font row) =
      let line := (coordinate (row * font.cellHeight)).tdiv font.cellHeight
      if 0 ≤ line then some line.toNat else none := by
  have hDistance : font.margin + row * font.cellHeight - font.margin =
      (row * font.cellHeight : Int) := by omega
  rw [lineAt?, font_of_mode hMode, Console.rowTop, coordinate_sub, hDistance]

theorem lineAt?_rowTop {lcd : Lcd} {font : Font} {row : Nat}
    (hMode : lcd.mode = Console.textMode font) (hTop : row * font.cellHeight < heightLimit) :
    lcd.lineAt? (Console.rowTop font row) = some row := by
  have hPos : (0 : Int) ≤ row * font.cellHeight := Int.mul_nonneg (by omega) (by omega)
  have hLt : (row * font.cellHeight : Int) < 0x80000000 := by
    rw [heightLimit] at hTop
    rw [← Int.natCast_mul]
    omega
  have hCell : (font.cellHeight : Int) ≠ 0 := by
    have := font.cellHeight_pos
    omega
  rw [lineAt?_eq hMode, coordinate_of_lt hPos hLt, Int.mul_tdiv_cancel _ hCell]
  exact if_pos (Int.natCast_nonneg row)

def overwrite (text : Nat → List UInt8) (rows : List Nat) (lines : Array (List UInt8)) :
    Array (List UInt8) := rows.foldl (fun lines row => lines.setIfInBounds row (text row)) lines

theorem getElem?_overwrite (text : Nat → List UInt8) (rows : List Nat)
    (lines : Array (List UInt8)) (i : Nat) :
    (overwrite text rows lines)[i]? =
      lines[i]?.map fun old => if i ∈ rows then text i else old := by
  induction rows generalizing lines with
  | nil => simp [overwrite]
  | cons row rest ih =>
    have hNext : overwrite text (row :: rest) lines =
        overwrite text rest (lines.setIfInBounds row (text row)) := rfl
    rw [hNext, ih, Array.getElem?_setIfInBounds]
    by_cases hRow : row = i
    · subst hRow
      by_cases hSize : row < lines.size
      · simp [hSize]
      · simp [hSize]
    · have hOther : i ≠ row := fun h => hRow h.symm
      simp [hRow, hOther]

variable {lcd : Lcd} {console : Console}

theorem draw_row (hMode : lcd.mode = Console.textMode console.font) {row : Nat}
    (hTop : row * console.font.cellHeight < heightLimit) :
    lcd.draw (console.drawRow row) =
      { lcd with lines := lcd.lines.setIfInBounds row (console.grid.rowBytes row) } := by
  rw [Console.drawRow, draw, setLine, lineAt?_rowTop hMode hTop]

theorem drawAll_append (before after : List DrawCall) (lcd : Lcd) :
    surface.drawAll (before ++ after) lcd =
      surface.drawAll after (surface.drawAll before lcd) := List.foldl_append

theorem drawAll_rows (hMode : lcd.mode = Console.textMode console.font) {rows : List Nat}
    (hRows : ∀ row ∈ rows, row * console.font.cellHeight < heightLimit) :
    surface.drawAll (rows.map console.drawRow) lcd =
      { lcd with lines := overwrite console.grid.rowBytes rows lcd.lines } := by
  induction rows generalizing lcd with
  | nil => rfl
  | cons row rest ih =>
    rw [List.forall_mem_cons] at hRows
    have hDrawn : surface.drawAll ((row :: rest).map console.drawRow) lcd =
        surface.drawAll (rest.map console.drawRow) (draw (console.drawRow row) lcd) := rfl
    rw [hDrawn, draw_row hMode hRows.1]
    exact ih hMode hRows.2

end Lcd

theorem RefreshMask.nothing_and (mask : UInt8) : nothing &&& mask = mask := by
  apply UInt8.eq_of_toBitVec_eq
  exact BitVec.allOnes_and

namespace Console

def rowText (console : Console) (row : Nat) : List UInt8 :=
  if row < console.grid.rows then console.grid.rowBytes row else []

def redrawn (console : Console) (mask : UInt8) (row : Nat) (old : List UInt8) : List UInt8 :=
  if mask = RefreshMask.nothing then old
  else if mask = RefreshMask.everything then console.rowText row
  else if row < console.grid.rows ∧ RefreshMask.draws mask row = true then
    console.grid.rowBytes row
  else old

/-- Every row of the console is drawn at a height that is a coordinate. -/
def Reaching (console : Console) : Prop :=
  ∀ row < console.grid.rows, row * console.font.cellHeight < heightLimit

theorem Sound.reaching {console : Console} (h : console.Sound)
    (hHeight : console.size.height < heightLimit) : console.Reaching := by
  intro row hRow
  rw [h.rows_eq] at hRow
  exact Nat.lt_trans (Font.top_lt hRow) hHeight

theorem redrawn_nothing (console : Console) (row : Nat) (old : List UInt8) :
    console.redrawn RefreshMask.nothing row old = old := if_pos rfl

theorem redrawn_everything (console : Console) (row : Nat) (old : List UInt8) :
    console.redrawn RefreshMask.everything row old = console.rowText row := by
  have hSome : RefreshMask.everything ≠ RefreshMask.nothing := by decide
  rw [redrawn, if_neg hSome, if_pos rfl]

theorem mem_rows_iff {console : Console} {mask : UInt8} {row : Nat} :
    row ∈ (List.range console.grid.rows).filter (RefreshMask.draws mask) ↔
      row < console.grid.rows ∧ RefreshMask.draws mask row = true := by
  rw [List.mem_filter, List.mem_range]

theorem draws_everything (row : Nat) : RefreshMask.draws RefreshMask.everything row = true := by
  simp [RefreshMask.draws, RefreshMask.everything]

end Console

namespace Lcd
variable {lcd : Lcd} {console : Console}

theorem drawAll_text (h : console.Reaching) (mask : UInt8) :
    surface.drawAll
        (.mode (Console.textMode console.font) :: console.drawRows mask ++ [.changed]) lcd =
      { lcd with
        mode := Console.textMode console.font
        lines := overwrite console.grid.rowBytes
          ((List.range console.grid.rows).filter (RefreshMask.draws mask)) lcd.lines
        changed := true } := by
  have hRows : ∀ row ∈ (List.range console.grid.rows).filter (RefreshMask.draws mask),
      row * console.font.cellHeight < heightLimit :=
    fun row hRow => h row (Console.mem_rows_iff.mp hRow).1
  have hDrawn := @drawAll_rows { lcd with mode := Console.textMode console.font } console rfl
    _ hRows
  have hMode : surface.drawAll (.mode (Console.textMode console.font) :: console.drawRows mask)
      lcd = _ := hDrawn
  rw [drawAll_append, hMode]
  rfl

theorem drawAll_clear (hSize : lcd.size = console.size) :
    surface.drawAll [.mode Console.clearMode, .rect 0 0 console.size] lcd =
      { lcd with
        mode := Console.clearMode
        lines := lcd.lines.map fun _ => [] } := by
  have hClears : Lcd.clears { lcd with mode := Console.clearMode } 0 0 console.size = true := by
    have hFlags : Console.clearMode.contains (.union .clear .fill) = true := by decide
    rw [clears, hSize, hFlags, Bool.and_true, decide_eq_true_eq]
    exact ⟨Int.le_refl 0, Int.le_refl 0, Nat.le_refl _, Nat.le_refl _⟩
  exact if_pos hClears

theorem lines_refreshCalls (h : console.Reaching)
    (hSize : lcd.size = console.size) (mask : UInt8) :
    (surface.drawAll (console.refreshCalls mask) lcd).size = lcd.size ∧
      ∀ i, (surface.drawAll (console.refreshCalls mask) lcd).lines[i]? =
        lcd.lines[i]?.map (console.redrawn mask i) := by
  rw [Console.refreshCalls]
  by_cases hNothing : mask = RefreshMask.nothing
  · rw [if_pos hNothing]
    refine ⟨rfl, fun i => ?_⟩
    have hSame : console.redrawn mask i = id := by
      funext old
      rw [hNothing, Console.redrawn_nothing]
      rfl
    rw [hSame, Option.map_id]
    rfl
  · rw [if_neg hNothing]
    by_cases hEverything : mask = RefreshMask.everything
    · subst hEverything
      rw [if_pos rfl, List.append_assoc, drawAll_append, drawAll_clear hSize,
        drawAll_text h]
      refine ⟨rfl, fun i => ?_⟩
      dsimp only
      rw [getElem?_overwrite, Array.getElem?_map, Option.map_map]
      congr 1
      funext old
      simp only [Function.comp_apply, Console.redrawn_everything, Console.rowText,
        Console.mem_rows_iff, Console.draws_everything, and_true]
    · rw [if_neg hEverything, List.nil_append, drawAll_text h]
      refine ⟨rfl, fun i => ?_⟩
      dsimp only
      rw [getElem?_overwrite]
      congr 1
      funext old
      rw [Console.redrawn, if_neg hNothing, if_neg hEverything]
      simp only [Console.mem_rows_iff]

theorem present_refreshCalls (h : console.Reaching)
    (hFree : lcd.locked = false) (hSize : lcd.size = console.size) (mask : UInt8) :
    ∃ after : Lcd, surface.present (console.refreshCalls mask) lcd = .done after ∧
      after.locked = false ∧ after.size = lcd.size ∧
      after.lines = lcd.lines.mapIdx (console.redrawn mask) := by
  have hBegin : surface.beginDraw lcd = .done { lcd with locked := true } := by
    change beginDraw lcd = _
    rw [beginDraw, hFree]
    rfl
  obtain ⟨hKept, hLines⟩ :=
    @lines_refreshCalls { lcd with locked := true } console h hSize mask
  rw [Surface.present, hBegin, Attempt.done_andThen]
  exact ⟨_, rfl, rfl, hKept, (Array.mapIdx_eq_iff.mpr hLines).symm⟩

end Lcd
end Handheld

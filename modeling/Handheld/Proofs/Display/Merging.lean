import Handheld.Display.Guarded
import Handheld.Proofs.Display.Lines
import Mathlib.Data.List.Induction

/-! # Requests that are merged

A console keeps the requests to draw as one mask. However many there are, and however many redraws
could not begin in the meantime, the next redraw that begins draws every row that at least one of
the requests asks for, and no other.
-/
set_option autoImplicit false
namespace Handheld

namespace RefreshMask
variable {mask other : UInt8} {masks : List UInt8} {row : Nat}

/-- A mask on its own asks for a row. -/
def Asks (mask : UInt8) (row : Nat) : Prop :=
  mask ≠ nothing ∧ (8 ≤ row ∨ mask.toNat.testBit (7 - row) = false)

instance (mask : UInt8) (row : Nat) : Decidable (Asks mask row) := by
  unfold Asks
  infer_instance

def merged (masks : List UInt8) : UInt8 := masks.foldl (· &&& ·) nothing

theorem merged_concat (masks : List UInt8) (mask : UInt8) :
    merged (masks ++ [mask]) = merged masks &&& mask := by
  rw [merged, List.foldl_append]
  rfl

theorem and_eq_nothing_iff : mask &&& other = nothing ↔ mask = nothing ∧ other = nothing := by
  simp only [← UInt8.toBitVec_inj, UInt8.toBitVec_and]
  exact BitVec.and_eq_allOnes_iff

theorem merged_eq_nothing_iff : merged masks = nothing ↔ ∀ mask ∈ masks, mask = nothing := by
  induction masks using List.reverseRecOn with
  | nil => simp [merged]
  | append_singleton masks mask ih =>
    rw [merged_concat, and_eq_nothing_iff, ih, List.forall_mem_append, List.forall_mem_singleton]

theorem testBit_nothing (hRow : row < 8) : nothing.toNat.testBit (7 - row) = true := by
  have hAll : ∀ row < 8, nothing.toNat.testBit (7 - row) = true := by decide
  exact hAll row hRow

theorem asks_iff_of_lt (hRow : row < 8) : Asks mask row ↔ mask.toNat.testBit (7 - row) = false := by
  constructor
  · rintro ⟨-, hBelow | hBit⟩
    · omega
    · exact hBit
  · intro hBit
    refine ⟨?_, .inr hBit⟩
    rintro rfl
    rw [testBit_nothing hRow] at hBit
    cases hBit

theorem asks_iff_of_le (hRow : 8 ≤ row) : Asks mask row ↔ mask ≠ nothing :=
  ⟨And.left, fun hSome => ⟨hSome, .inl hRow⟩⟩

theorem asks_and : Asks (mask &&& other) row ↔ Asks mask row ∨ Asks other row := by
  by_cases hRow : row < 8
  · rw [asks_iff_of_lt hRow, asks_iff_of_lt hRow, asks_iff_of_lt hRow, UInt8.toNat_and,
      Nat.testBit_and, Bool.and_eq_false_iff]
  · have hBeyond := Nat.le_of_not_lt hRow
    rw [asks_iff_of_le hBeyond, asks_iff_of_le hBeyond, asks_iff_of_le hBeyond, ne_eq,
      and_eq_nothing_iff, not_and_or]

/-- Merging loses no row and adds none. -/
theorem asks_merged : Asks (merged masks) row ↔ ∃ mask ∈ masks, Asks mask row := by
  induction masks using List.reverseRecOn with
  | nil => simp [merged, Asks]
  | append_singleton masks mask ih =>
    rw [merged_concat, asks_and, ih]
    simp only [List.mem_append, List.mem_singleton, or_and_right, exists_or, exists_eq_left]

theorem asks_iff_draws (hSome : mask ≠ nothing) : Asks mask row ↔ draws mask row = true := by
  simp [Asks, draws, hSome]

end RefreshMask

namespace Console
open RefreshMask
variable {σ : Type} {surface : Surface σ} {console : Console} {screen : σ} {mask : UInt8}

/-- The calls that draw some rows of a console, on a cleared screen or over what it shows. -/
def session (console : Console) (cleared : Bool) (rows : List Nat) : List DrawCall :=
  (if cleared then [.mode clearMode, .rect 0 0 console.size] else []) ++
    .mode (textMode console.font) :: rows.map (fun row =>
      .line console.font.margin
        (coordinate (console.font.margin + row * console.font.cellHeight))
        (console.grid.rowBytes row)) ++ [.changed]

theorem exists_refreshCalls_eq (console : Console) (hSome : mask ≠ nothing) :
    ∃ rows : List Nat, rows.Pairwise (· < ·) ∧
      (∀ row, row ∈ rows ↔ row < console.grid.rows ∧ Asks mask row) ∧
      console.refreshCalls mask = console.session (mask = everything) rows := by
  refine ⟨(List.range console.grid.rows).filter (draws mask), ?_, fun row => ?_, ?_⟩
  · exact List.pairwise_lt_range.filter _
  · rw [mem_rows_iff, asks_iff_draws hSome]
  · rw [refreshCalls, if_neg hSome, session]
    simp only [decide_eq_true_eq]
    rfl

theorem redraw_of_nothing (surface : Surface σ) (screen : σ) (hPending : console.pending = nothing) :
    console.redraw surface screen = .done (console, screen) := by
  rw [redraw, isDirty, hPending]
  rfl

theorem redraw_of_ne (surface : Surface σ) (screen : σ) (hPending : console.pending ≠ nothing) :
    console.redraw surface screen =
      match (surface.beginDraw screen).fault with
      | some e => .stopped e (console, (surface.beginDraw screen).state)
      | none => .done (console.settlePending, surface.endDraw
          (surface.drawAll (console.refreshCalls console.pending)
            (surface.beginDraw screen).state)) := by
  have hDirty : console.isDirty = true := bne_iff_ne.mpr hPending
  exact if_pos hDirty

inductive Tending
  | request (mask : UInt8)
  | redraw

/-- A console and its screen, with the requests since the last redraw that could begin. -/
structure Tended (σ : Type) where
  console : Console
  screen : σ
  asked : List UInt8

namespace Tended

def start (console : Console) (screen : σ) : Tended σ := ⟨console, screen, [console.pending]⟩

def tend (surface : Surface σ) (now : Tended σ) : Tending → Tended σ
  | .request mask => ⟨now.console.requestRefresh mask, now.screen, now.asked ++ [mask]⟩
  | .redraw =>
    let attempt := now.console.redraw surface now.screen
    ⟨attempt.state.1, attempt.state.2, if attempt.fault.isSome then now.asked else []⟩

def Kept (console : Console) (now : Tended σ) : Prop :=
  now.console = { console with pending := merged now.asked }

theorem kept_start (console : Console) (screen : σ) : Kept console (start console screen) := by
  have hMerged : merged [console.pending] = console.pending := nothing_and console.pending
  rw [Kept, start, hMerged]

theorem Kept.tend {now : Tended σ} (h : Kept console now) (tending : Tending) :
    Kept console (now.tend surface tending) := by
  cases tending with
  | request mask =>
    rw [Kept, Tended.tend, merged_concat, h]
    rfl
  | redraw =>
    rw [Tended.tend]
    by_cases hPending : now.console.pending = nothing
    · rw [redraw_of_nothing surface now.screen hPending, Kept]
      have hNothing : merged now.asked = nothing := by rwa [h] at hPending
      rw [h, hNothing]
      rfl
    · rw [redraw_of_ne surface now.screen hPending]
      cases (surface.beginDraw now.screen).fault with
      | some e => exact h
      | none =>
        rw [Kept, h]
        rfl

theorem kept_of_steps (surface : Surface σ) (console : Console) (screen : σ)
    (steps : List Tending) : Kept console (steps.foldl (tend surface) (start console screen)) := by
  induction steps using List.reverseRecOn with
  | nil => exact kept_start console screen
  | append_singleton steps tending ih =>
    rw [List.foldl_append]
    exact ih.tend tending

end Tended

/-- After any requests and redraws a console is the one it was, but for its pending mask, which is
that of all requests since the last redraw that could begin. If none of these asks for anything, a
redraw leaves the screen alone. Otherwise a redraw that cannot begin leaves the console as it is,
and one that begins draws the rows that one of the requests asks for, in order and each once, on a
cleared screen if the requests have no bit in common. Heights wrap from two to the thirty-first
on. -/
theorem redraw_of_requests (surface : Surface σ) (console : Console) (screen : σ)
    (steps : List Tending) :
    let now := steps.foldl (Tended.tend surface) (.start console screen)
    let begun := surface.beginDraw now.screen
    let attempt := now.console.redraw surface now.screen
    now.console = { console with pending := merged now.asked } ∧
    ((∀ mask ∈ now.asked, mask = nothing) → attempt = .done (now.console, now.screen)) ∧
    ((∃ mask ∈ now.asked, mask ≠ nothing) →
      (∀ e, begun.fault = some e → attempt = .stopped e (now.console, begun.state)) ∧
      (begun.fault = none → ∃ rows : List Nat, rows.Pairwise (· < ·) ∧
        (∀ row, row ∈ rows ↔ row < console.grid.rows ∧ ∃ mask ∈ now.asked, Asks mask row) ∧
        attempt = .done (now.console.settlePending, surface.endDraw (surface.drawAll
          (console.session (merged now.asked = everything) rows) begun.state)))) ∧
    (∀ mask, mask ≠ nothing → ∃ rows : List Nat, rows.Pairwise (· < ·) ∧
      (∀ row, row ∈ rows ↔ row < console.grid.rows ∧ Asks mask row) ∧
      console.refreshCalls mask = console.session (mask = everything) rows) ∧
    ∀ row : Nat, console.font.top row < 0x100000000 →
      coordinate (console.font.top row) =
        if console.font.top row < heightLimit then console.font.top row
        else console.font.top row - 0x100000000 := by
  intro now begun attempt
  have h : Tended.Kept console now := Tended.kept_of_steps surface console screen steps
  have hPending : now.console.pending = merged now.asked := congrArg Console.pending h
  refine ⟨h, ?_, ?_, fun mask hMask => exists_refreshCalls_eq console hMask, ?_⟩
  · intro hNone
    exact redraw_of_nothing surface now.screen (hPending.trans (merged_eq_nothing_iff.mpr hNone))
  · rintro ⟨mask, hMask, hSome⟩
    have hMerged : merged now.asked ≠ nothing :=
      fun hNone => hSome (merged_eq_nothing_iff.mp hNone mask hMask)
    have hRedraw : attempt = _ := redraw_of_ne surface now.screen (hPending ▸ hMerged)
    constructor
    · intro e hFault
      rw [hRedraw, hFault]
    · intro hBegun
      obtain ⟨rows, hOrder, hRows, hCalls⟩ := exists_refreshCalls_eq console hMerged
      have hSame : now.console.refreshCalls now.console.pending =
          console.session (merged now.asked = everything) rows := by
        rw [hPending, ← hCalls, h]
        rfl
      refine ⟨rows, hOrder, fun row => ?_, ?_⟩
      · rw [hRows, asks_merged]
      · rw [hRedraw, hBegun, hSame]
  · exact fun row hTop => rowTop_eq hTop

/-- A screen that cannot be locked at first. What was asked for before and what is asked for later
is drawn together, on a cleared screen, since the requests have no bit in common. The console is so
tall that its last row is drawn far above the upper edge. -/
theorem redraw_of_lockedTallScreen :
    let surface := Lcd.surface.guarded [0] "busy"
    let console := Console.ofSize ⟨5, 0x80000020⟩
    let start := Tended.start console (.start (.ofSize "lcd" ⟨8, 32⟩))
    let now := [.request 0x7f, .redraw, .request 0x80].foldl (Tended.tend surface) start
    now.asked = [0xff, 0x7f, 0x80] ∧ now.screen.begins = 1 ∧
    (∃ rows : List Nat, (∀ row, row ∈ rows ↔ row < 134217730) ∧
      now.console.redraw surface now.screen = .done (now.console.settlePending, surface.endDraw
        (surface.drawAll (console.session true rows) (surface.beginDraw now.screen).state))) ∧
    console.font.top 134217729 = 0x80000010 ∧
    coordinate (console.font.top 134217729) = -0x7ffffff0 := by
  intro surface console start now
  have hAsked : now.asked = [0xff, 0x7f, 0x80] := by decide +kernel
  obtain ⟨-, -, hRedraw, -, hHeight⟩ := redraw_of_requests surface console
    (.start (.ofSize "lcd" ⟨8, 32⟩)) [.request 0x7f, .redraw, .request 0x80]
  obtain ⟨-, hDrawn⟩ := hRedraw ⟨0x7f, by decide +kernel, by decide⟩
  obtain ⟨rows, -, hRows, hDone⟩ := hDrawn (by decide +kernel)
  have hTop : console.font.top 134217729 = 0x80000010 := by decide
  refine ⟨hAsked, by decide +kernel, ⟨rows, fun row => ?_, ?_⟩, hTop, ?_⟩
  · have hGrid : console.grid.rows = 134217730 := by decide +kernel
    rw [hRows, hGrid]
    constructor
    · exact And.left
    · intro hRow
      refine ⟨hRow, hAsked ▸ ?_⟩
      by_cases hBeyond : 8 ≤ row
      · exact ⟨0x7f, by decide, (asks_iff_of_le hBeyond).mpr (by decide)⟩
      · have hAsks : ∀ row < 8, ∃ mask ∈ [0xff, 0x7f, 0x80], Asks mask row := by decide
        exact hAsks row (Nat.lt_of_not_le hBeyond)
  · have hCleared : decide (merged now.asked = everything) = true := by
      rw [hAsked]
      decide
    rw [← hCleared]
    exact hDone
  · have hWrapped := hHeight 134217729 (hTop ▸ by decide)
    rw [hTop, if_neg (by decide)] at hWrapped
    rw [hTop, hWrapped]
    rfl

end Console
end Handheld

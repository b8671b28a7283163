import Handheld.Proofs.Console.Visible

/-! # Characters and line breaks

A text is added character by character. A byte from 0x80 on and the byte after it are one character,
which gets two adjacent cells, but for a pair whose second byte is zero: that one is stored like a
single byte. A line break comes out the same with and without a carriage return in front of it.
-/
set_option autoImplicit false
namespace Handheld

/-- The bytes of a text, character by character. A pair that the end of the text cuts short is filled
up with a blank. -/
def characters : List UInt8 → List (List UInt8)
  | [] => []
  | [value] => if 0x80 ≤ value then [[value, 0x20]] else [[value]]
  | value :: next :: rest =>
    if 0x80 ≤ value then [value, next] :: characters rest
    else [value] :: characters (next :: rest)

theorem flatten_characters (text : List UInt8) :
    (characters text).flatten = text ∨ (characters text).flatten = text ++ [0x20] := by
  fun_induction characters text with
  | case1 => exact .inl rfl
  | case2 value hLead => exact .inr rfl
  | case3 value hLow => exact .inl rfl
  | case4 value next rest hLead ih => simpa using ih
  | case5 value next rest hLow ih => simpa using ih

theorem charCodes_eq_flatMap (text : List UInt8) :
    charCodes text = (characters text).flatMap charCodes := by
  fun_induction characters text with
  | case1 => rfl
  | case2 value hLead => simp [charCodes, hLead]
  | case3 value hLow => simp [charCodes, hLow]
  | case4 value next rest hLead ih => simp [charCodes, hLead, ih]
  | case5 value next rest hLow ih => simp [charCodes, hLow, ih]

theorem lead_of_mem_characters {text : List UInt8} {lead follower : UInt8}
    (h : [lead, follower] ∈ characters text) : 0x80 ≤ lead := by
  fun_induction characters text with
  | case1 => cases h
  | case2 value hLead =>
    obtain ⟨rfl, -⟩ : lead = value ∧ follower = 0x20 := by simpa using h
    exact hLead
  | case3 value hLow => simp at h
  | case4 value next rest hLead ih =>
    obtain hPair | hRest := List.mem_cons.mp h
    · obtain ⟨rfl, -⟩ : lead = value ∧ follower = next := by simpa using hPair
      exact hLead
    · exact ih hRest
  | case5 value next rest hLow ih => exact ih (by simpa using h)

theorem toNat_wideCode (lead follower : UInt8) :
    (wideCode lead follower).toNat = lead.toNat + 256 * follower.toNat := by
  have hLead := lead.toNat_lt
  have hFollower := follower.toNat_lt
  exact UInt16.toNat_ofNat_of_lt' (by change _ < 65536; omega)

theorem wideCode_ne {lead : UInt8} (hLead : 0x80 ≤ lead) (follower : UInt8) {code : UInt16}
    (hCode : code.toNat < 0x80) : wideCode lead follower ≠ code := by
  rintro rfl
  have hLow : 0x80 ≤ lead.toNat := hLead
  rw [toNat_wideCode] at hCode
  omega

theorem wide_wideCode_iff {lead follower : UInt8} :
    0xff < (wideCode lead follower).toNat ↔ follower ≠ 0 := by
  have hLead := lead.toNat_lt
  rw [toNat_wideCode, ne_eq, ← UInt8.toNat_inj, UInt8.toNat_zero]
  omega

theorem charBytes_wideCode (lead follower : UInt8) :
    charBytes (wideCode lead follower) = if follower = 0 then [lead] else [lead, follower] := by
  have hLead := lead.toNat_lt
  have hFollower := follower.toNat_lt
  have hLow : UInt8.ofNat (wideCode lead follower).toNat = lead := by
    rw [toNat_wideCode, ← UInt8.toNat_inj, UInt8.toNat_ofNat']
    omega
  have hHigh : UInt8.ofNat ((wideCode lead follower).toNat / 256) = follower := by
    rw [toNat_wideCode, ← UInt8.toNat_inj, UInt8.toNat_ofNat']
    omega
  simp only [charBytes, wide_wideCode_iff, hLow, hHigh, ite_not]

namespace Grid
variable {grid : Grid}

/-- The number of cells in front of the cursor, those of the lines that were scrolled away
included. -/
def passed (grid : Grid) : Nat := grid.cols * grid.line + grid.col

theorem passed_settle : grid.settle.passed = grid.passed := by
  rw [passed, line_settle, col_settle, cols_eq_of_dims grid.dims_settle, passed]

theorem passed_fill (value : UInt8) : (grid.fill value).passed = grid.passed + 1 := rfl

theorem passed_wrap (hCol : grid.col ≤ grid.cols) : grid.wrap.passed = grid.passed := by
  rw [wrap]
  split
  · rename_i hFull
    have hLast : grid.col = grid.cols := Nat.le_antisymm hCol hFull
    have hLine : grid.nextRow.line = grid.line + 1 := rfl
    rw [passed, hLine, passed, hLast, Nat.mul_succ]
    rfl
  · rfl

theorem passed_makeRoom :
    grid.makeRoom.passed =
      if grid.col + 1 < grid.cols then grid.passed else grid.cols * (grid.line + 1) := by
  rw [makeRoom]
  by_cases hFull : grid.cols ≤ grid.col + 1
  · have hDims : (grid.put 0x20).newline.dims = grid.dims := by rw [dims_newline, dims_put]
    have hCol : (grid.put 0x20).newline.col = 0 := col_settle _
    rw [if_pos hFull, if_neg (by omega), passed, line_newline, hCol, cols_eq_of_dims hDims]
    rfl
  · rw [if_neg hFull, if_pos (by omega)]

theorem Settled.passed_addWide (h : Settled grid) (hRows : 0 < grid.rows) (hCols : 2 ≤ grid.cols)
    (lead follower : UInt8) :
    (grid.addWide lead follower).passed =
      (if grid.col + 1 < grid.cols then grid.passed else grid.cols * (grid.line + 1)) + 2 := by
  obtain ⟨-, -, hFree⟩ := h.makeRoom_room hRows hCols
  have hCols := cols_eq_of_dims grid.dims_makeRoom
  rw [← passed_makeRoom, Grid.addWide, passed_wrap, passed_fill, passed_fill]
  change grid.makeRoom.col + 2 ≤ grid.makeRoom.cols
  omega

theorem Settled.passed_addNarrow (h : Settled grid) (hCols : 0 < grid.cols) {value : UInt8}
    (hFeed : value ≠ 0x0a) (hReturn : value ≠ 0x0d) :
    (grid.addNarrow value).passed = grid.passed + 1 := by
  rw [Grid.addNarrow, if_neg hFeed, if_neg hReturn, passed_wrap, passed_fill]
  exact h.col_lt_cols hCols

theorem Sound.passed_addChar (h : Sound grid) {code : UInt16} (hRoom : grid.HasRoom code)
    (hFeed : code ≠ 0x0a) (hReturn : code ≠ 0x0d) :
    (grid.addChar code).passed =
      if 0xff < code.toNat then
        (if grid.col + 1 < grid.cols then grid.passed else grid.cols * (grid.line + 1)) + 2
      else grid.passed + 1 := by
  have hSettled := h.settle
  have hRows := rows_eq_of_dims grid.dims_settle
  have hCols := cols_eq_of_dims grid.dims_settle
  obtain ⟨hSomeRow, hLength⟩ := hRoom
  rw [← hRows] at hSomeRow
  rw [charBytes, ← hCols] at hLength
  rw [Grid.addChar]
  by_cases hWide : 0xff < code.toNat
  · rw [if_pos hWide] at hLength
    rw [if_pos hWide, if_pos hWide, hSettled.passed_addWide hSomeRow hLength, col_settle, hCols,
      passed_settle, line_settle]
  · rw [if_neg hWide] at hLength
    rw [if_neg hWide, if_neg hWide,
      hSettled.passed_addNarrow hLength (mt (narrow_eq_iff hWide).mp hFeed)
        (mt (narrow_eq_iff hWide).mp hReturn), passed_settle]

theorem addBytes_pair {lead : UInt8} (hLead : 0x80 ≤ lead) (follower : UInt8) :
    grid.addBytes [lead, follower] = grid.addChar (wideCode lead follower) := by
  rw [addBytes, charCodes, if_pos hLead]
  rfl

theorem Sound.addBytes_pair_holds (h : Sound grid) (hRows : 1 ≤ grid.rows) (hCols : 2 ≤ grid.cols)
    {lead : UInt8} (hLead : 0x80 ≤ lead) (follower : UInt8) :
    let paired := grid.addBytes [lead, follower]
    (follower ≠ 0 → paired.Holds [lead, follower] ∧
      paired.passed =
        (if grid.col + 1 < grid.cols then grid.passed else grid.cols * (grid.line + 1)) + 2) ∧
    (follower = 0 → paired.Holds [lead] ∧ paired.passed = grid.passed + 1) := by
  intro paired
  have hPaired : paired = grid.addChar (wideCode lead follower) := addBytes_pair hLead follower
  have hFeed : wideCode lead follower ≠ 0x0a := wideCode_ne hLead follower (by decide)
  have hReturn : wideCode lead follower ≠ 0x0d := wideCode_ne hLead follower (by decide)
  have hRoom : grid.HasRoom (wideCode lead follower) := by
    refine ⟨hRows, Nat.le_trans ?_ hCols⟩
    rw [charBytes_wideCode]
    split
    · exact Nat.le_succ 1
    · exact Nat.le_refl 2
  have hHolds := (h.addChar_takes (.inr (.inr hRoom))).2 hFeed hReturn
  have hPassed := h.passed_addChar hRoom hFeed hReturn
  rw [← hPaired, charBytes_wideCode] at hHolds
  rw [← hPaired] at hPassed
  refine ⟨fun hSome => ?_, fun hZero => ?_⟩
  · rw [if_neg hSome] at hHolds
    rw [if_pos (wide_wideCode_iff.mpr hSome)] at hPassed
    exact ⟨hHolds, hPassed⟩
  · rw [if_pos hZero] at hHolds
    rw [if_neg (mt wide_wideCode_iff.mp (not_not_intro hZero))] at hPassed
    exact ⟨hHolds, hPassed⟩

theorem dims_foldl_addBytes (pieces : List (List UInt8)) :
    (pieces.foldl addBytes grid).dims = grid.dims := by
  induction pieces generalizing grid with
  | nil => rfl
  | cons piece rest ih => rw [List.foldl_cons, ih, dims_addBytes]

end Grid

namespace Console
variable {console : Console}

theorem foldl_addBytes (console : Console) (pieces : List (List UInt8)) :
    pieces.foldl addBytes console = console.withGrid (pieces.foldl Grid.addBytes console.grid) := by
  induction pieces generalizing console with
  | nil => rfl
  | cons piece rest ih => exact ih (console.addBytes piece)

theorem addBytes_eq_foldl_characters (console : Console) (text : List UInt8) :
    console.addBytes text = (characters text).foldl addBytes console := by
  have hPiece : (fun console piece => (charCodes piece).foldl addChar console) = addBytes := by
    funext console piece
    exact (console.addBytes_eq piece).symm
  rw [addBytes_eq, charCodes_eq_flatMap, List.foldl_flatMap, hPiece]

theorem Sound.foldl_addBytes (h : Sound console) (pieces : List (List UInt8)) :
    Sound (pieces.foldl addBytes console) := by
  induction pieces generalizing console with
  | nil => exact h
  | cons piece rest ih => exact ih (h.onConsole (.addBytes piece))

/-- In whatever state a console with a row and two columns is, each pair of a text is stored in two
adjacent cells of one row, at the cursor or, from the last column, on the next line, and the rest of
the text goes on behind it. Of a pair whose second byte is zero only the first byte is stored. -/
theorem pairs_of_text (hReachable : Reachable console) (hRows : 1 ≤ console.grid.rows)
    (hCols : 2 ≤ console.grid.cols) {text : List UInt8} {front back : List (List UInt8)}
    {lead follower : UInt8} (hText : characters text = front ++ [lead, follower] :: back) :
    let start := front.foldl addBytes console
    let paired := start.addBytes [lead, follower]
    let bytes := front.flatten ++ lead :: follower :: back.flatten
    (bytes = text ∨ bytes = text ++ [0x20]) ∧ 0x80 ≤ lead ∧
    console.addBytes text = back.foldl addBytes paired ∧
    (follower ≠ 0 → paired.grid.Holds [lead, follower] ∧
      paired.grid.passed =
        (if start.grid.col + 1 < start.grid.cols then start.grid.passed
        else start.grid.cols * (start.grid.line + 1)) + 2) ∧
    (follower = 0 →
      paired.grid.Holds [lead] ∧ paired.grid.passed = start.grid.passed + 1) := by
  intro start paired bytes
  have hMember : [lead, follower] ∈ characters text := by
    rw [hText]
    exact List.mem_append_cons_self
  have hLead := lead_of_mem_characters hMember
  have hSound : start.grid.Sound := (hReachable.sound.foldl_addBytes front).grid
  have hDims : start.grid.dims = console.grid.dims := by
    have hStart : start = _ := console.foldl_addBytes front
    rw [hStart]
    exact Grid.dims_foldl_addBytes front
  rw [← Grid.rows_eq_of_dims hDims] at hRows
  rw [← Grid.cols_eq_of_dims hDims] at hCols
  refine ⟨?_, hLead, ?_, hSound.addBytes_pair_holds hRows hCols hLead follower⟩
  · have hBytes := flatten_characters text
    rwa [hText, List.flatten_append, List.flatten_cons] at hBytes
  · rw [addBytes_eq_foldl_characters, hText, List.foldl_append, List.foldl_cons]

/-- The first pair finds one column left in the last row, so that the text scrolls under it. The zero
of the second pair is lost, and the third pair, whose second byte is missing, begins in its place. -/
theorem pairs_of_lostZero :
    let console := ofSize ⟨24, 32⟩
    let text := [0x61, 0x62, 0x63, 0x64, 0x65, 0xb0, 0xa1, 0x0a, 0xb1, 0x00, 0xb2]
    let front := [[0x61], [0x62], [0x63], [0x64], [0x65]]
    let paired := (front.foldl addBytes console).addBytes [0xb0, 0xa1]
    let lost := (paired.addBytes [0x0a]).addBytes [0xb1, 0x00]
    characters text = front ++ [0xb0, 0xa1] :: [[0x0a], [0xb1, 0x00], [0xb2, 0x20]] ∧
    paired.grid.Holds [0xb0, 0xa1] ∧ paired.grid.passed = 8 ∧
    lost.grid.Holds [0xb1] ∧ lost.grid.passed = 10 ∧
    console.addBytes text = lost.addBytes [0xb2, 0x20] ∧
    (console.addBytes text).grid.cells = #[0xb0, 0xa1, 0x00, 0xb1, 0xb2, 0x20, 0, 0] := by
  intro console text front paired lost
  have hReachable : Reachable console := .ofSize _
  have hText : characters text =
      front ++ [0xb0, 0xa1] :: [[0x0a], [0xb1, 0x00], [0xb2, 0x20]] := by decide
  have hLater : characters text =
      (front ++ [[0xb0, 0xa1], [0x0a]]) ++ [0xb1, 0x00] :: [[0xb2, 0x20]] := by decide
  obtain ⟨-, -, -, hPair, -⟩ := pairs_of_text hReachable (by decide) (by decide) hText
  obtain ⟨-, -, hRest, -, hZero⟩ := pairs_of_text hReachable (by decide) (by decide) hLater
  obtain ⟨hHolds, hPassed⟩ := hPair (by decide)
  obtain ⟨hLost, hBehind⟩ := hZero rfl
  refine ⟨hText, hHolds, hPassed.trans ?_, hLost, hBehind.trans ?_, hRest, ?_⟩
  · decide +kernel
  · decide +kernel
  · decide +kernel

end Console

def withReturns (codes : List UInt16) : List UInt16 :=
  codes.flatMap fun code => if code = 0x0a then [0x0d, 0x0a] else [code]

namespace Grid
variable {grid : Grid}

theorem Settled.settle_eq (h : Settled grid) : grid.settle = grid := by
  rw [Grid.settle]
  split
  · have hRow := h.row_lt
    exact moveUp_of_row_eq_zero (by omega)
  · rfl

theorem addChar_return (grid : Grid) : grid.addChar 0x0d = grid.settle := rfl

theorem addChar_feed (grid : Grid) : grid.addChar 0x0a = grid.settle.newline := rfl

/-- A carriage return makes the scroll that is owed. The line feed would have made it. -/
theorem Sound.addChar_return_feed (h : Sound grid) :
    (grid.addChar 0x0d).addChar 0x0a = grid.addChar 0x0a := by
  rw [addChar_return, addChar_feed, addChar_feed, h.settle.settle_eq]

theorem Sound.foldl_withReturns (h : Sound grid) (codes : List UInt16) :
    (withReturns codes).foldl Grid.addChar grid = codes.foldl Grid.addChar grid := by
  induction codes generalizing grid with
  | nil => rfl
  | cons code codes ih =>
    have hNext := ih (h.addChar code)
    rw [withReturns, List.flatMap_cons, List.foldl_append, List.foldl_cons, ← hNext]
    split
    · rename_i hFeed
      rw [hFeed, ← h.addChar_return_feed]
      rfl
    · rfl

end Grid

namespace Console

/-- Whatever was done to a console of whatever size, characters with a carriage return in front of
each line feed leave the same console as without. A carriage return alone does not move the cursor in
the text, though the text may scroll, and a line feed goes to the start of the next line. -/
theorem lineBreaks_of_actions (size : PixelSize) (actions : List Action) (codes : List UInt16) :
    let console := actions.foldl Action.apply (ofSize size)
    (withReturns codes).foldl addChar console = codes.foldl addChar console ∧
    (console.addChar 0x0d).grid.passed = console.grid.passed ∧
    (console.addChar 0x0a).grid.line = console.grid.line + 1 ∧
    (console.addChar 0x0a).grid.col = 0 := by
  intro console
  have hGrid : console.grid.Sound := ((sound_ofSize size).foldl_apply actions).grid
  refine ⟨?_, ?_, ?_, ?_⟩
  · rw [foldl_addChar, foldl_addChar, hGrid.foldl_withReturns]
  · exact Grid.passed_settle
  · exact Grid.line_newline.trans (congrArg (· + 1) Grid.line_settle)
  · exact Grid.col_settle _

end Console
end Handheld

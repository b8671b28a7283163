import Handheld.Player.Instruction
import Mathlib.Data.List.Basic

/-! # The grammar of programs

A program is read word by word, a word being the bytes of one instruction. Whatever the bytes are,
they begin with some words, and then they are over, marked as over, cut off in the middle of a word,
or illegal.
-/
set_option autoImplicit false
namespace Handheld
namespace Instruction

/-- The words of each instruction. The end of a program has none: its mark is not a word, since
nothing behind it is read. -/
inductive Spells : Instruction → List UInt8 → Prop
  | locate (row col : UInt8) : Spells (.locate row col) [0x01, row, col]
  | setFont (code : UInt8) : Spells (.setFont code) [0x02, code]
  | scroll : Spells .scroll [0x03]
  | clear : Spells .clear [0x0c]
  | lineFeed : Spells (.print 0x0a) [0x0a]
  | carriageReturn : Spells (.print 0x0d) [0x0d]
  | narrow {value : UInt8} (hLow : 0x20 ≤ value) (hHigh : value < 0x80) :
      Spells (.print (UInt16.ofNat value.toNat)) [value]
  | wide {lead : UInt8} (hLead : 0x80 ≤ lead) (follower : UInt8) :
      Spells (.print (wideCode lead follower)) [lead, follower]

def IsWord (word : List UInt8) : Prop := ∃ instruction, Spells instruction word

def Illegal (opcode : UInt8) : Prop :=
  0x04 ≤ opcode ∧ opcode ≤ 0x09 ∨ opcode = 0x0b ∨ 0x0e ≤ opcode ∧ opcode ≤ 0x1f

def CutOff (bytes : List UInt8) : Prop :=
  bytes ≠ [] ∧ ∃ missing, missing ≠ [] ∧ IsWord (bytes ++ missing)

/-- Bytes at an offset that begin with no word: the steps still begun there, and the fault of the
last one. -/
inductive Stuck (offset : Nat) : List UInt8 → Nat → Option MachineError → Prop
  | done : Stuck offset [] 0 none
  | mark (rest : List UInt8) : Stuck offset (0x00 :: rest) 1 none
  | illegal {opcode : UInt8} {addr : UInt32} (hIllegal : Illegal opcode)
      (hAddr : addr.toNat = offset) (rest : List UInt8) :
      Stuck offset (opcode :: rest) 1 (some (.illegalInstruction opcode addr))
  | cutOff {part : List UInt8} (hCut : CutOff part) :
      Stuck offset part 1 (some (.badProgram (.cutOff (offset + part.length))))

/-- The bytes of a program are read in so many steps, one for each word and at most one more, of
which only the last can fail. -/
inductive Reading (bytes : List UInt8) : Nat → Option MachineError → Prop
  | intro {words : List (List UInt8)} {rest : List UInt8} {count : Nat}
      {fault : Option MachineError} (hWords : ∀ word ∈ words, IsWord word)
      (hBytes : bytes = words.flatten ++ rest)
      (hStuck : Stuck words.flatten.length rest count fault) :
      Reading bytes (words.length + count) fault

/-- The bytes are words, up to their end or to a mark with anything behind it. -/
def Accepted (bytes : List UInt8) : Prop :=
  ∃ words : List (List UInt8), (∀ word ∈ words, IsWord word) ∧
    (bytes = words.flatten ∨ ∃ rest, bytes = words.flatten ++ 0x00 :: rest)

theorem Spells.ne_finish {instruction : Instruction} {word : List UInt8}
    (h : Spells instruction word) : instruction ≠ .finish := by
  rintro rfl
  cases h

theorem IsWord.length_pos {word : List UInt8} (h : IsWord word) : 0 < word.length := by
  obtain ⟨_, hSpells⟩ := h
  cases hSpells
  all_goals exact Nat.succ_pos _

theorem opcode_cases (opcode : UInt8) :
    opcode = 0x00 ∨ opcode = 0x01 ∨ opcode = 0x02 ∨ opcode = 0x03 ∨ opcode = 0x0a ∨
      opcode = 0x0c ∨ opcode = 0x0d ∨ (0x20 ≤ opcode ∧ opcode < 0x80) ∨ 0x80 ≤ opcode ∨
      Illegal opcode := by
  unfold Illegal
  grind

theorem stuck_or_word {offset : Nat} (hOffset : offset < 0x100000000) (bytes : List UInt8) :
    (∃ count fault, Stuck offset bytes count fault) ∨
      ∃ word rest, IsWord word ∧ bytes = word ++ rest := by
  cases bytes with
  | nil => exact .inl ⟨0, none, .done⟩
  | cons opcode rest =>
    obtain rfl | rfl | rfl | rfl | rfl | rfl | rfl | ⟨hLow, hHigh⟩ | hLead | hIllegal :=
      opcode_cases opcode
    · exact .inl ⟨1, none, .mark rest⟩
    · match rest with
      | [] => exact .inl ⟨1, _, .cutOff ⟨by simp, [0, 0], by simp, _, .locate 0 0⟩⟩
      | [row] => exact .inl ⟨1, _, .cutOff ⟨by simp, [0], by simp, _, .locate row 0⟩⟩
      | row :: col :: rest => exact .inr ⟨_, rest, ⟨_, .locate row col⟩, rfl⟩
    · match rest with
      | [] => exact .inl ⟨1, _, .cutOff ⟨by simp, [0], by simp, _, .setFont 0⟩⟩
      | code :: rest => exact .inr ⟨_, rest, ⟨_, .setFont code⟩, rfl⟩
    · exact .inr ⟨_, rest, ⟨_, .scroll⟩, rfl⟩
    · exact .inr ⟨_, rest, ⟨_, .lineFeed⟩, rfl⟩
    · exact .inr ⟨_, rest, ⟨_, .clear⟩, rfl⟩
    · exact .inr ⟨_, rest, ⟨_, .carriageReturn⟩, rfl⟩
    · exact .inr ⟨_, rest, ⟨_, .narrow hLow hHigh⟩, rfl⟩
    · match rest with
      | [] => exact .inl ⟨1, _, .cutOff ⟨by simp, [0], by simp, _, .wide hLead 0⟩⟩
      | follower :: rest => exact .inr ⟨_, rest, ⟨_, .wide hLead follower⟩, rfl⟩
    · exact .inl ⟨1, _, .illegal hIllegal (UInt32.toNat_ofNat_of_lt' hOffset) rest⟩

theorem exists_words (bytes : List UInt8) :
    ∃ (words : List (List UInt8)) (rest : List UInt8), (∀ word ∈ words, IsWord word) ∧
      bytes = words.flatten ++ rest ∧ ¬ ∃ word tail, IsWord word ∧ rest = word ++ tail := by
  by_cases hFront : ∃ word rest, IsWord word ∧ bytes = word ++ rest
  · obtain ⟨word, rest, hWord, hBytes⟩ := hFront
    obtain ⟨words, stuck, hWords, hRest, hStuck⟩ := exists_words rest
    refine ⟨word :: words, stuck, ?_, ?_, hStuck⟩
    · rw [List.forall_mem_cons]
      exact ⟨hWord, hWords⟩
    · rw [List.flatten_cons, List.append_assoc, ← hRest, hBytes]
  · exact ⟨[], bytes, by simp, rfl, hFront⟩
termination_by bytes.length
decreasing_by
  have hPos := hWord.length_pos
  rw [hBytes, List.length_append]
  omega

theorem exists_reading {bytes : List UInt8} (hSize : bytes.length < 0x100000000) :
    ∃ steps fault, Reading bytes steps fault := by
  obtain ⟨words, rest, hWords, hBytes, hNone⟩ := exists_words bytes
  have hOffset : words.flatten.length < 0x100000000 := by
    rw [hBytes, List.length_append] at hSize
    omega
  obtain ⟨count, fault, hStuck⟩ | hWord := stuck_or_word hOffset rest
  · exact ⟨_, fault, .intro hWords hBytes hStuck⟩
  · exact absurd hWord hNone

theorem length_le_flatten {words : List (List UInt8)} (hWords : ∀ word ∈ words, IsWord word) :
    words.length ≤ words.flatten.length := by
  induction words with
  | nil => exact Nat.le_refl 0
  | cons word words ih =>
    rw [List.forall_mem_cons] at hWords
    have hPos := hWords.1.length_pos
    have hRest := ih hWords.2
    rw [List.flatten_cons, List.length_append, List.length_cons]
    omega

theorem Reading.steps_le {bytes : List UInt8} {steps : Nat} {fault : Option MachineError}
    (h : Reading bytes steps fault) : steps ≤ bytes.length := by
  obtain ⟨hWords, rfl, hStuck⟩ := h
  have hSteps := length_le_flatten hWords
  rw [List.length_append]
  cases hStuck with
  | done => exact Nat.le_add_right_of_le hSteps
  | mark | illegal => exact Nat.add_le_add hSteps (Nat.succ_pos _)
  | cutOff hCut => exact Nat.add_le_add hSteps (List.length_pos_iff.mpr hCut.1)

theorem accepted_iff {bytes : List UInt8} : Accepted bytes ↔ ∃ steps, Reading bytes steps none := by
  constructor
  · rintro ⟨words, hWords, hBytes | ⟨rest, hBytes⟩⟩
    · exact ⟨_, .intro hWords (hBytes.trans (List.append_nil _).symm) .done⟩
    · exact ⟨_, .intro hWords hBytes (.mark rest)⟩
  · rintro ⟨steps, @⟨words, rest, count, -, hWords, hBytes, hStuck⟩⟩
    cases hStuck with
    | done => exact ⟨words, hWords, .inl (hBytes.trans (List.append_nil _))⟩
    | mark rest => exact ⟨words, hWords, .inr ⟨rest, hBytes⟩⟩

def left (text : Array UInt8) (offset : Nat) : List UInt8 := text.toList.drop offset

variable {text : Array UInt8} {offset : Nat}

theorem left_append {word rest : List UInt8} (h : left text offset = word ++ rest) :
    left text (offset + word.length) = rest := by
  rw [left, ← List.drop_drop]
  change (left text offset).drop _ = _
  rw [h, List.drop_left]

theorem fetch_of_left {value : UInt8} {rest : List UInt8} (h : left text offset = value :: rest) :
    fetch text offset = .ok value ∧ left text (offset + 1) = rest := by
  have hFront : text[offset]? = some value := by
    rw [← Array.getElem?_toList, ← List.head?_drop]
    exact congrArg List.head? h
  constructor
  · rw [fetch, hFront]
  · exact @left_append text offset [value] rest h

theorem fetch_of_over (h : left text offset = []) :
    fetch text offset = .error (.badProgram (.cutOff offset)) := by
  have hOver : text[offset]? = none := by
    rw [← Array.getElem?_toList, ← List.head?_drop]
    exact congrArg List.head? h
  rw [fetch, hOver]

theorem size_eq_of_left {part : List UInt8} (h : left text offset = part) (hSome : part ≠ []) :
    text.size = offset + part.length := by
  have hInside := List.length_pos_iff.mpr hSome
  rw [← h, left, List.length_drop, Array.length_toList] at hInside ⊢
  omega

theorem lt_size_of_left {part : List UInt8} (h : left text offset = part) (hSome : part ≠ []) :
    offset < text.size := by
  rw [size_eq_of_left h hSome]
  exact Nat.lt_add_of_pos_right (List.length_pos_iff.mpr hSome)

theorem decode_of_one (hFront : fetch text offset = .ok 0x01) :
    decode text offset = do
      let row ← fetch text (offset + 1)
      let col ← fetch text (offset + 2)
      return (.locate row col, offset + 3) := by
  rw [decode, hFront]
  rfl

theorem decode_of_two (hFront : fetch text offset = .ok 0x02) :
    decode text offset = do
      let code ← fetch text (offset + 1)
      return (.setFont code, offset + 2) := by
  rw [decode, hFront]
  rfl

theorem decode_of_lead {lead : UInt8} (hFront : fetch text offset = .ok lead)
    (hLead : 0x80 ≤ lead) :
    decode text offset = do
      let follower ← fetch text (offset + 1)
      return (.print (wideCode lead follower), offset + 2) := by
  rw [decode, hFront]
  dsimp only [bind, Except.bind]
  iterate 5 rw [if_neg (by grind)]
  rw [if_pos hLead]

theorem decode_of_spells {instruction : Instruction} {word rest : List UInt8}
    (h : Spells instruction word) (hLeft : left text offset = word ++ rest) :
    decode text offset = .ok (instruction, offset + word.length) := by
  cases h with
  | locate row col =>
    obtain ⟨hFront, hLeft⟩ := fetch_of_left hLeft
    obtain ⟨hRow, hLeft⟩ := fetch_of_left hLeft
    obtain ⟨hCol, -⟩ := fetch_of_left hLeft
    rw [decode_of_one hFront, hRow, hCol]
    rfl
  | setFont code =>
    obtain ⟨hFront, hLeft⟩ := fetch_of_left hLeft
    obtain ⟨hCode, -⟩ := fetch_of_left hLeft
    rw [decode_of_two hFront, hCode]
    rfl
  | scroll | clear | lineFeed | carriageReturn =>
    rw [decode, (fetch_of_left hLeft).1]
    rfl
  | narrow hLow hHigh =>
    rw [decode, (fetch_of_left hLeft).1]
    dsimp only [bind, Except.bind]
    iterate 7 rw [if_neg (by grind)]
    rfl
  | wide hLead follower =>
    obtain ⟨hFront, hLeft⟩ := fetch_of_left hLeft
    rw [decode_of_lead hFront hLead, (fetch_of_left hLeft).1]
    rfl

theorem decode_of_mark {rest : List UInt8} (h : left text offset = 0x00 :: rest) :
    decode text offset = .ok (.finish, offset + 1) := by
  rw [decode, (fetch_of_left h).1]
  rfl

theorem decode_of_illegal {opcode : UInt8} {rest : List UInt8} (hIllegal : Illegal opcode)
    (h : left text offset = opcode :: rest) :
    decode text offset = .error (.illegalInstruction opcode (UInt32.ofNat offset)) := by
  rw [Illegal] at hIllegal
  rw [decode, (fetch_of_left h).1]
  dsimp only [bind, Except.bind]
  iterate 6 rw [if_neg (by grind)]
  rw [if_pos (by grind)]
  rfl

theorem cutOff_cases {part : List UInt8} (h : CutOff part) :
    part = [0x01] ∨ (∃ row, part = [0x01, row]) ∨ part = [0x02] ∨
      ∃ lead, 0x80 ≤ lead ∧ part = [lead] := by
  obtain ⟨hSome, missing, hMissing, instruction, hSpells⟩ := h
  generalize hWord : part ++ missing = word at hSpells
  rcases part with _ | ⟨a, _ | ⟨b, _ | ⟨c, part⟩⟩⟩
  all_goals cases hSpells
  all_goals simp_all

theorem decode_of_cutOff {part : List UInt8} (hCut : CutOff part) (h : left text offset = part) :
    decode text offset = .error (.badProgram (.cutOff text.size)) := by
  rw [size_eq_of_left h hCut.1]
  obtain rfl | ⟨row, rfl⟩ | rfl | ⟨lead, hLead, rfl⟩ := cutOff_cases hCut
  · obtain ⟨hFront, hOver⟩ := fetch_of_left h
    rw [decode_of_one hFront, fetch_of_over hOver]
    rfl
  · obtain ⟨hFront, hLeft⟩ := fetch_of_left h
    obtain ⟨hRow, hOver⟩ := fetch_of_left hLeft
    rw [decode_of_one hFront, hRow, fetch_of_over hOver]
    rfl
  · obtain ⟨hFront, hOver⟩ := fetch_of_left h
    rw [decode_of_two hFront, fetch_of_over hOver]
    rfl
  · obtain ⟨hFront, hOver⟩ := fetch_of_left h
    rw [decode_of_lead hFront hLead, fetch_of_over hOver]
    rfl

end Instruction
end Handheld

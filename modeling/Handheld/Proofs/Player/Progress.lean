import Handheld.Proofs.Machine.Traced
import Handheld.Proofs.Player.Grammar
import Handheld.Proofs.Player.Upkeep

/-! # The progress of the player

The instructions that a program begins with are fixed by their number. As long as nothing fails, the
two words of the player tell how many bytes of its program were read and how many characters were
printed. Changes of the screen leave the words where they are if the runtime memory has room for
them.
-/
set_option autoImplicit false
namespace Handheld

namespace Instruction

def prints : Instruction → Bool
  | print _ => true
  | _ => false

/-- The bytes of an instruction, among them the mark that ends a program. -/
inductive Encodes : Instruction → List UInt8 → Prop
  | word {instruction : Instruction} {word : List UInt8} (h : Spells instruction word) :
      Encodes instruction word
  | mark : Encodes .finish [0x00]

/-- Such instructions stand at the front of a text, one behind the other, and take up so many of its
bytes. -/
inductive Begins (text : Array UInt8) : List Instruction → Nat → Prop
  | nil : Begins text [] 0
  | concat {executed : List Instruction} {length : Nat} (h : Begins text executed length)
      {instruction : Instruction} {word rest : List UInt8} (hWord : Encodes instruction word)
      (hLeft : left text length = word ++ rest) :
      Begins text (executed ++ [instruction]) (length + word.length)

variable {text : Array UInt8} {offset : Nat}

theorem Encodes.length_pos {instruction : Instruction} {word : List UInt8}
    (h : Encodes instruction word) : 0 < word.length := by
  cases h with
  | word hSpells => exact IsWord.length_pos ⟨instruction, hSpells⟩
  | mark => exact Nat.one_pos

theorem decode_of_encodes {instruction : Instruction} {word rest : List UInt8}
    (h : Encodes instruction word) (hLeft : left text offset = word ++ rest) :
    decode text offset = .ok (instruction, offset + word.length) := by
  cases h with
  | word hSpells => exact decode_of_spells hSpells hLeft
  | mark => exact decode_of_mark hLeft

theorem left_ne_nil_of_decode {instruction : Instruction} {next : Nat}
    (h : decode text offset = .ok (instruction, next)) : left text offset ≠ [] := by
  intro hOver
  rw [decode, fetch_of_over hOver] at h
  cases h

theorem encodes_of_decode (hSize : text.size < 0x100000000) {instruction : Instruction} {next : Nat}
    (h : decode text offset = .ok (instruction, next)) :
    ∃ word rest, Encodes instruction word ∧ left text offset = word ++ rest ∧
      next = offset + word.length := by
  have hInside : offset < text.size := lt_size_of_left rfl (left_ne_nil_of_decode h)
  -- the bytes that are left decide, and decoding them gives this very instruction
  have hOnly {other : Instruction} {word rest : List UInt8} (hWord : Encodes other word)
      (hLeft : left text offset = word ++ rest) :
      Encodes instruction word ∧ next = offset + word.length := by
    cases h.symm.trans (decode_of_encodes hWord hLeft)
    exact ⟨hWord, rfl⟩
  obtain ⟨count, fault, hStuck⟩ | ⟨word, rest, ⟨other, hSpells⟩, hLeft⟩ :=
    stuck_or_word (Nat.lt_trans hInside hSize) (left text offset)
  · generalize hLeft : left text offset = bytes at hStuck
    cases hStuck with
    | done => exact absurd hLeft (left_ne_nil_of_decode h)
    | mark rest =>
      obtain ⟨hWord, hNext⟩ := hOnly .mark hLeft
      exact ⟨_, rest, hWord, rfl, hNext⟩
    | illegal hIllegal => cases h.symm.trans (decode_of_illegal hIllegal hLeft)
    | cutOff hCut => cases h.symm.trans (decode_of_cutOff hCut hLeft)
  · obtain ⟨hWord, hNext⟩ := hOnly (.word hSpells) hLeft
    exact ⟨word, rest, hWord, hLeft, hNext⟩

theorem Begins.length_le {executed : List Instruction} {length : Nat}
    (h : Begins text executed length) : executed.length ≤ length ∧ length ≤ text.size := by
  induction h with
  | nil => exact ⟨Nat.le_refl 0, Nat.zero_le _⟩
  | @concat executed length h instruction word rest hWord hLeft ih =>
    have hPos := hWord.length_pos
    have hSome : word ++ rest ≠ [] := by
      rw [← List.length_pos_iff, List.length_append]
      omega
    have hSize := size_eq_of_left hLeft hSome
    rw [List.length_append] at hSize
    rw [List.length_append, List.length_singleton]
    omega

theorem Begins.unique {executed others : List Instruction} {length more : Nat}
    (h : Begins text executed length) (hOthers : Begins text others more)
    (hLength : others.length = executed.length) : others = executed ∧ more = length := by
  induction h generalizing others more with
  | nil =>
    cases hOthers with
    | nil => exact ⟨rfl, rfl⟩
    | concat => simp at hLength
  | concat h hWord hLeft ih =>
    cases hOthers with
    | nil => simp at hLength
    | concat hBefore hOther hAlso =>
      obtain ⟨rfl, rfl⟩ := ih hBefore (by simpa using hLength)
      have hSame := (decode_of_encodes hWord hLeft).symm.trans (decode_of_encodes hOther hAlso)
      obtain ⟨rfl, hEnd⟩ := Prod.mk.inj (Except.ok.inj hSame)
      exact ⟨rfl, hEnd.symm⟩

end Instruction

theorem Player.printed_advance (player : Player) (instruction : Instruction) (next : Nat) :
    (player.advance instruction next).printed =
      player.printed + UInt32.ofNat (if instruction.prints = true then 1 else 0) := by
  cases instruction with
  | print code => rfl
  | finish | locate | setFont | scroll | clear => exact (UInt32.add_zero player.printed).symm

def Call.isStep : Call → Bool
  | step => true
  | _ => false

def Call.GoesOn (call : Call) : Prop :=
  call = .step ∨ ∃ size : PixelSize, size.InRange ∧ call = .setScreen size

namespace Machine
open Instruction

def Succeeds (machine : Machine Player) : List Call → Prop
  | [] => True
  | call :: rest => (call.run machine).fault = none ∧ Succeeds (call.run machine).state rest

/-- The player has executed such instructions of its text, and its words say so. -/
structure Tracks (text : Array UInt8) (executed : List Instruction) (machine : Machine Player) :
    Prop where
  text_eq : machine.interp.text = text
  begins : Begins text executed machine.interp.place
  printed_eq : machine.interp.printed = UInt32.ofNat (executed.countP prints)
  isEnd_eq : machine.isEnd = machine.interp.finished
  recorded : machine.interp.Recorded machine.work.store

variable {runtime : Nat} {text : Array UInt8} {executed : List Instruction}
  {machine : Machine Player}

theorem tracks_load (h : Furnished runtime machine) (program : Program) :
    ∃ after, machine.load Player.interpreter program = .done after ∧ Furnished runtime after ∧
      Tracks program.bytes [] after := by
  obtain ⟨after, hLoad, hAfter, hInterp, hEnd, hRecorded⟩ := h.load program
  refine ⟨after, hLoad, hAfter, ?_⟩
  rw [← hInterp] at hEnd hRecorded
  refine ⟨?_, ?_, ?_, hEnd, hRecorded⟩
  · rw [hInterp]
  · rw [hInterp]
    exact .nil
  · rw [hInterp]
    rfl

theorem Tracks.step (hTracks : Tracks text executed machine) (h : Furnished runtime machine)
    (hSize : text.size < 0x100000000) (hOk : (machine.step Player.interpreter).fault = none) :
    ∃ instruction,
      Tracks text (executed ++ [instruction]) (machine.step Player.interpreter).state := by
  have hStepped := h.stepped
  generalize machine.step Player.interpreter = attempt at hStepped hOk
  cases hStepped with
  | refused | undecoded => cases hOk
  | finished hPhase hOver =>
    have hEnd := hTracks.isEnd_eq.trans hOver
    rw [isEnd, hPhase] at hEnd
    cases hEnd
  | @performed _ _ instruction next hDecode =>
    rw [hTracks.text_eq] at hDecode
    obtain ⟨word, rest, hWord, hLeft, rfl⟩ := encodes_of_decode hSize hDecode
    refine ⟨instruction, hTracks.text_eq, hTracks.begins.concat hWord hLeft, ?_,
      isEnd_phaseOf _ _ _, (h.performed instruction _).2⟩
    rw [List.countP_append, List.countP_singleton, UInt32.ofNat_add, ← hTracks.printed_eq]
    exact Player.printed_advance machine.interp instruction _

theorem Tracks.setScreen (hTracks : Tracks text executed machine) (h : Furnished runtime machine)
    (hRoom : 8 ≤ runtime) {size : PixelSize} (hSize : size.InRange) :
    Tracks text executed (machine.setScreen size).state := by
  have hRecorded : machine.interp.Recorded (machine.setScreen size).state.work.store :=
    hTracks.recorded.congr fun there hThere =>
      (h.setScreen hSize).2 there (Nat.lt_of_lt_of_le hThere hRoom)
  obtain ⟨space, hState⟩ := machine.setScreen_state_eq size
  rw [hState] at hRecorded ⊢
  exact ⟨hTracks.text_eq, hTracks.begins, hTracks.printed_eq, hTracks.isEnd_eq, hRecorded⟩

theorem Tracks.after (hTracks : Tracks text executed machine) (h : Furnished runtime machine)
    (hRoom : 8 ≤ runtime) (hSize : text.size < 0x100000000) {calls : List Call}
    (hCalls : ∀ call ∈ calls, call.GoesOn) (hOk : Succeeds machine calls) :
    ∃ more, more.length = calls.countP Call.isStep ∧
      Tracks text (executed ++ more) (machine.after calls) := by
  induction calls generalizing machine executed with
  | nil => exact ⟨[], rfl, by rwa [List.append_nil]⟩
  | cons call rest ih =>
    rw [List.forall_mem_cons] at hCalls
    obtain ⟨rfl | ⟨size, hScreen, rfl⟩, hRest⟩ := hCalls
    · obtain ⟨instruction, hNext⟩ := hTracks.step h hSize hOk.1
      obtain ⟨more, hLength, hLast⟩ := ih hNext h.step hRest hOk.2
      refine ⟨instruction :: more, ?_, ?_⟩
      · rw [List.length_cons, hLength]
        exact (List.countP_cons_of_pos rfl).symm
      · rw [← List.append_cons] at hLast
        exact hLast
    · exact ih (hTracks.setScreen h hRoom hScreen) (h.setScreen hScreen).1 hRest hOk.2

theorem Tracks.words (hTracks : Tracks text executed machine) (h : Furnished runtime machine)
    (hSize : text.size < 0x100000000) :
    ∃ window place count, machine.work.space.window? = some window ∧
      machine.work.store.readWord window.start = .ok place ∧
      place.toNat = machine.interp.place ∧
      machine.work.store.readWord (window.start + 4) = .ok count ∧
      count.toNat = executed.countP prints := by
  obtain ⟨contents, -, hStore⟩ := h
  obtain ⟨hPlace, hCount⟩ := hTracks.recorded.readWord
  obtain ⟨hSteps, hBound⟩ := hTracks.begins.length_le
  have hPrints : executed.countP prints ≤ executed.length := List.countP_le_length
  refine ⟨contents.window, UInt32.ofNat machine.interp.place, machine.interp.printed,
    hStore.window?_eq, ?_, ?_, ?_, ?_⟩
  · rw [hStore.start_eq]
    exact hPlace
  · exact UInt32.toNat_ofNat_of_lt' (Nat.lt_of_le_of_lt hBound hSize)
  · rw [hStore.start_eq]
    exact hCount
  · rw [hTracks.printed_eq]
    exact UInt32.toNat_ofNat_of_lt' (Nat.lt_of_le_of_lt (by omega) hSize)

/-- As long as neither a step nor a change of the screen has failed since a load, there have been as
many instructions as steps, which are those that the program begins with. The first word at the start
of the frame is their length, the offset of the next instruction, and the second one tells how many of
them print. -/
theorem progress_of_calls {geometry : Geometry} (hRange : geometry.InRange)
    (hRoom : 8 ≤ geometry.runtimeSize) (hCreate : create geometry Player.idle = .ok machine)
    {earlier : List Call} (hEarlier : ∀ call ∈ earlier, call.InRange) {program : Program}
    (hSize : program.bytes.size < 0x100000000) {later : List Call}
    (hLater : ∀ call ∈ later, call.GoesOn)
    (hOk : Succeeds ((machine.after earlier).load Player.interpreter program).state later) :
    let loaded := (machine.after earlier).load Player.interpreter program
    let now := (loaded.state.after later).work
    loaded.fault = none ∧ ∃ executed length, Begins program.bytes executed length ∧
      executed.length = later.countP Call.isStep ∧
      (∀ others more, Begins program.bytes others more → others.length = executed.length →
        others = executed ∧ more = length) ∧
      ∃ window place count, now.space.window? = some window ∧
        now.store.readWord window.start = .ok place ∧ place.toNat = length ∧
        now.store.readWord (window.start + 4) = .ok count ∧
        count.toNat = executed.countP prints := by
  intro loaded now
  obtain ⟨after, hLoad, hFurnished, hTracks⟩ :=
    tracks_load (furnished_of_calls hRange hCreate hEarlier) program
  have hLoaded : loaded = .done after := hLoad
  have hState : now = (after.after later).work := by
    simp only [now, hLoaded]
    rfl
  rw [hLoad] at hOk
  obtain ⟨executed, hLength, hLast⟩ := hTracks.after hFurnished hRoom hSize hLater hOk
  rw [List.nil_append] at hLast
  have hInRange : ∀ call ∈ later, call.InRange := by
    intro call hCall
    obtain rfl | ⟨size, hScreen, rfl⟩ := hLater call hCall
    · trivial
    · exact hScreen
  rw [hLoaded, hState]
  exact ⟨rfl, executed, _, hLast.begins, hLength, fun others more => hLast.begins.unique,
    hLast.words (hFurnished.after hInRange) hSize⟩

/-- A letter, a line break and a wide character are printed after the cursor was moved, the screen
changes in between, and the mark at the end is executed as well. -/
theorem progress_of_shortText :
    let earlier : List Call := [.load ⟨"old", #[0x62, 0x63]⟩, .step, .setScreen ⟨5, 32⟩]
    let program : Program := ⟨"short", #[0x01, 0x00, 0x01, 0x61, 0x0a, 0xa1, 0xb0, 0x00]⟩
    let later : List Call :=
      [.step, .step, .setScreen ⟨24, 26⟩, .step, .step, .setScreen ⟨24, 26⟩, .step]
    ∃ machine, create ⟨⟨16, 32⟩, 8, 1⟩ Player.idle = .ok machine ∧
      let loaded := (machine.after earlier).load Player.interpreter program
      let now := (loaded.state.after later).work
      Succeeds loaded.state later ∧ ∃ window, now.space.window? = some window ∧
        now.store.readWord window.start = .ok 8 ∧
        now.store.readWord (window.start + 4) = .ok 3 := by
  intro earlier program later
  have hRange : Geometry.InRange ⟨⟨16, 32⟩, 8, 1⟩ := by decide
  have hEarlier : ∀ call ∈ earlier, call.InRange := by decide +revert
  have hLater : ∀ call ∈ later, call.GoesOn := by
    have hScreen : PixelSize.InRange ⟨24, 26⟩ := ⟨by decide, by decide⟩
    simp [later, Call.GoesOn, hScreen]
  have hRun : ∃ machine, create ⟨⟨16, 32⟩, 8, 1⟩ Player.idle = .ok machine ∧
      Succeeds ((machine.after earlier).load Player.interpreter program).state later := by
    refine ⟨_, rfl, ?_, ?_, ?_, ?_, ?_, ?_, ?_, trivial⟩
    all_goals decide +kernel
  obtain ⟨machine, hCreate, hOk⟩ := hRun
  obtain ⟨-, executed, length, -, hLength, hOnly, window, place, count, hWindow, hPlace, hOffset,
    hCount, hPrints⟩ :=
      @progress_of_calls _ _ hRange (by decide) hCreate _ hEarlier program (by decide) _ hLater hOk
  have hBegins : Begins program.bytes
      [.locate 0 1, .print 0x61, .print 0x0a, .print (wideCode 0xa1 0xb0), .finish] 8 :=
    ((((Begins.nil.concat (.word (.locate 0 1)) rfl).concat
      (.word (.narrow (by decide) (by decide))) rfl).concat (.word .lineFeed) rfl).concat
      (.word (.wide (by decide) 0xb0)) rfl).concat .mark rfl
  obtain ⟨rfl, rfl⟩ := hOnly _ _ hBegins hLength.symm
  obtain rfl : place = 8 := UInt32.toNat_inj.mp hOffset
  obtain rfl : count = 3 := UInt32.toNat_inj.mp hPrints
  exact ⟨machine, hCreate, hOk, window, hWindow, hPlace, hCount⟩

end Machine
end Handheld

import Handheld.Proofs.Machine.Run
import Handheld.Proofs.Player.Forgetting
import Handheld.Proofs.Player.Grammar
import Mathlib.Data.List.Induction

/-! # The programs that the player accepts

A run of the player makes one step for each word of its program. It comes to an end with every
program, and without a fault with those that the grammar accepts.
-/
set_option autoImplicit false
namespace Handheld
namespace Machine
open Instruction

variable {geometry : Geometry} {text : Array UInt8} {offset : Nat} {machine : Machine Player}

/-- The player has come to an offset of its text, and is at the end where nothing is left. -/
structure Reads (geometry : Geometry) (text : Array UInt8) (offset : Nat)
    (machine : Machine Player) : Prop where
  formed : WellFormed geometry machine
  text_eq : machine.interp.text = text
  place_eq : machine.interp.place = offset
  finished_eq : machine.interp.finished = decide (text.size ≤ offset)
  isEnd_eq : machine.isEnd = decide (text.size ≤ offset)

namespace Reads

theorem isEnd_eq_false (h : Reads geometry text offset machine) (hInside : offset < text.size) :
    machine.isEnd = false := by
  rw [h.isEnd_eq]
  exact decide_eq_false (Nat.not_le.mpr hInside)

theorem ready (h : Reads geometry text offset machine) (hInside : offset < text.size) :
    machine.phase = .ready ∧ machine.interp.finished = false := by
  have hGoes := h.isEnd_eq_false hInside
  refine ⟨?_, (h.finished_eq.trans h.isEnd_eq.symm).trans hGoes⟩
  obtain ⟨player, work, phase, program⟩ := machine
  cases phase with
  | ready => rfl
  | ended => cases hGoes

theorem step_of_decode (h : Reads geometry text offset machine) (hInside : offset < text.size)
    {instruction : Instruction} {next : Nat}
    (hDecode : decode text offset = .ok (instruction, next)) :
    ∃ after, machine.step Player.interpreter = .done after ∧ WellFormed geometry after ∧
      after.interp = machine.interp.advance instruction next ∧
      after.isEnd = after.interp.finished ∧
      after.work.console = Player.perform instruction machine.work.console := by
  obtain ⟨hReady, hGoes⟩ := h.ready hInside
  rw [← h.text_eq, ← h.place_eq] at hDecode
  obtain ⟨contents, hStart, hAssembled⟩ := h.formed
  obtain ⟨other, hShape, hOther, hStep⟩ := Player.step_of_decode hAssembled hStart hGoes hDecode
  obtain ⟨player, work, phase, program⟩ := machine
  obtain rfl : phase = .ready := hReady
  have hInterpreter : Player.interpreter.step (player, work) = _ := hStep
  rw [step, hInterpreter]
  refine ⟨_, rfl, ⟨other, ?_, hOther⟩, rfl, isEnd_phaseOf _ _ _, rfl⟩
  rw [hShape.window_eq]
  exact hStart

theorem step_of_error (h : Reads geometry text offset machine) (hInside : offset < text.size)
    {e : MachineError} (hDecode : decode text offset = .error e) :
    machine.step Player.interpreter = .stopped e { machine with phase := .ended } := by
  obtain ⟨hReady, hGoes⟩ := h.ready hInside
  rw [← h.text_eq, ← h.place_eq] at hDecode
  obtain ⟨player, work, phase, program⟩ := machine
  obtain rfl : phase = .ready := hReady
  have hStep : Player.step (player, work) = .stopped e (player, work) := by
    rw [Player.step, hGoes, if_neg (by decide), hDecode]
  have hInterpreter : Player.interpreter.step (player, work) = _ := hStep
  rw [step, hInterpreter]
  rfl

theorem step_word (h : Reads geometry text offset machine) {instruction : Instruction}
    {word rest : List UInt8} (hSpells : Spells instruction word)
    (hLeft : left text offset = word ++ rest) :
    offset < text.size ∧ (machine.step Player.interpreter).fault = none ∧
      Reads geometry text (offset + word.length) (machine.step Player.interpreter).state ∧
      (machine.step Player.interpreter).state.work.console =
        Player.perform instruction machine.work.console := by
  have hSome : word ++ rest ≠ [] := by
    have hPos := IsWord.length_pos ⟨instruction, hSpells⟩
    rintro hNone
    rw [List.append_eq_nil_iff.mp hNone |>.1] at hPos
    exact absurd hPos (Nat.lt_irrefl 0)
  have hInside : offset < text.size := by
    have hLength := List.length_pos_iff.mpr hSome
    rw [size_eq_of_left hLeft hSome]
    omega
  obtain ⟨after, hStep, hFormed, hPlayer, hEnd, hConsole⟩ :=
    h.step_of_decode hInside (decode_of_spells hSpells hLeft)
  have hFinished : after.interp.finished = decide (text.size ≤ offset + word.length) := by
    rw [hPlayer, ← h.text_eq]
    simp only [Player.advance, hSpells.ne_finish, false_or]
  rw [hStep]
  refine ⟨hInside, rfl, ⟨hFormed, ?_, ?_, hFinished, hEnd.trans hFinished⟩, hConsole⟩
  · exact (congrArg Player.text hPlayer).trans h.text_eq
  · exact congrArg Player.place hPlayer

theorem leadsTo_words (h : Reads geometry text offset machine) {words : List (List UInt8)}
    (hWords : ∀ word ∈ words, IsWord word) {rest : List UInt8}
    (hLeft : left text offset = words.flatten ++ rest) :
    ∃ after, LeadsTo Player.interpreter words.length machine after ∧
      Reads geometry text (offset + words.flatten.length) after := by
  induction words using List.reverseRecOn generalizing rest with
  | nil => exact ⟨machine, .refl machine, h⟩
  | append_singleton words word ih =>
    rw [List.forall_mem_append, List.forall_mem_singleton] at hWords
    rw [List.flatten_append, List.flatten_singleton, List.append_assoc] at hLeft
    obtain ⟨middle, hLeads, hMiddle⟩ := ih hWords.1 hLeft
    obtain ⟨instruction, hSpells⟩ := hWords.2
    obtain ⟨hInside, hFault, hAfter, -⟩ := hMiddle.step_word hSpells (left_append hLeft)
    refine ⟨(middle.step Player.interpreter).state, ?_, ?_⟩
    · rw [List.length_append, List.length_singleton]
      exact hLeads.step (hMiddle.isEnd_eq_false hInside) hFault
    · rw [List.flatten_append, List.flatten_singleton, List.length_append, ← Nat.add_assoc]
      exact hAfter

theorem run_of_error (h : Reads geometry text offset machine) (hInside : offset < text.size)
    {e : MachineError} (hDecode : decode text offset = .error e) :
    ∃ after, after.isEnd = true ∧ ∀ limit, 1 ≤ limit →
      machine.run Player.interpreter limit = ⟨after, 1, some e⟩ := by
  have hStep := h.step_of_error hInside hDecode
  refine ⟨{ machine with phase := .ended }, rfl, fun limit hLimit => ?_⟩
  rw [run_of_last (h.isEnd_eq_false hInside) (by rw [hStep]; rfl) hLimit, hStep]
  rfl

theorem run_of_stuck (h : Reads geometry text offset machine) {count : Nat}
    {fault : Option MachineError} (hStuck : Stuck offset (left text offset) count fault) :
    ∃ after, after.isEnd = true ∧ ∀ limit, count ≤ limit →
      machine.run Player.interpreter limit = ⟨after, count, fault⟩ := by
  generalize hLeft : left text offset = rest at hStuck
  cases hStuck with
  | done =>
    have hOver : text.toList.length ≤ offset := List.drop_eq_nil_iff.mp hLeft
    have hEnd : machine.isEnd = true := by
      rw [h.isEnd_eq]
      exact decide_eq_true hOver
    exact ⟨machine, hEnd, fun limit _ => run_of_isEnd hEnd limit⟩
  | mark rest =>
    have hInside := lt_size_of_left hLeft (List.cons_ne_nil _ _)
    obtain ⟨after, hStep, -, hPlayer, hEnd, -⟩ := h.step_of_decode hInside (decode_of_mark hLeft)
    have hLast : after.isEnd = true := by
      rw [hEnd, hPlayer]
      simp [Player.advance]
    refine ⟨after, hLast, fun limit hLimit => ?_⟩
    rw [run_of_last (h.isEnd_eq_false hInside) (by rw [hStep]; exact hLast) hLimit, hStep]
    rfl
  | illegal hIllegal hAddr rest =>
    have hInside := lt_size_of_left hLeft (List.cons_ne_nil _ _)
    subst hAddr
    have hDecode := decode_of_illegal hIllegal hLeft
    rw [UInt32.ofNat_toNat] at hDecode
    exact h.run_of_error hInside hDecode
  | cutOff hCut =>
    have hInside := lt_size_of_left hLeft hCut.1
    have hDecode := decode_of_cutOff hCut hLeft
    rw [size_eq_of_left hLeft hCut.1] at hDecode
    exact h.run_of_error hInside hDecode

end Reads

theorem run_of_reading (h : Reads geometry text 0 machine) {steps : Nat}
    {fault : Option MachineError} (hReading : Reading text.toList steps fault) :
    ∃ after, after.isEnd = true ∧ ∀ limit, steps ≤ limit →
      machine.run Player.interpreter limit = ⟨after, steps, fault⟩ := by
  obtain @⟨words, rest, count, _, hWords, hBytes, hStuck⟩ := hReading
  have hLeft : left text 0 = words.flatten ++ rest := hBytes
  obtain ⟨middle, hLeads, hMiddle⟩ := h.leadsTo_words hWords hLeft
  have hRest := left_append hLeft
  rw [Nat.zero_add] at hMiddle hRest
  rw [← hRest] at hStuck
  obtain ⟨after, hEnd, hRun⟩ := hMiddle.run_of_stuck hStuck
  refine ⟨after, hEnd, fun limit hLimit => ?_⟩
  obtain ⟨more, rfl⟩ := Nat.exists_eq_add_of_le hLimit
  rw [Nat.add_assoc, hLeads, hRun _ (Nat.le_add_right _ _), RunResult.behind, Nat.add_comm count]

theorem reads_load (h : WellFormed geometry machine) (program : Program) :
    (machine.load Player.interpreter program).fault = none ∧
      Reads geometry program.bytes 0 (machine.load Player.interpreter program).state := by
  obtain ⟨hLoaded, hFault, -⟩ := load_spec h program
  refine ⟨hFault, ?_⟩
  obtain ⟨contents, hStart, hAssembled⟩ := h
  rw [load_eq_opened hAssembled hStart] at hLoaded ⊢
  have hFinished : program.bytes.isEmpty = decide (program.bytes.size ≤ 0) := by
    simp only [Array.isEmpty, Nat.le_zero]
  exact ⟨hLoaded, rfl, rfl, hFinished, (isEnd_phaseOf _ _ _).trans hFinished⟩

/-- Whatever was played before, the bytes of a program alone decide how its run ends: it takes as
many steps as reading them does, at most one for each byte, and stops at the fault of the reading.
The bytes can be read in one way only. -/
theorem acceptance_of_calls (hRange : geometry.InRange)
    (hCreate : create geometry Player.idle = .ok machine) {calls : List Call}
    (hCalls : ∀ call ∈ calls, call.InRange) (hFit : ScreensFit machine calls) {program : Program}
    (hSize : program.bytes.size < 0x100000000) :
    let loaded := (machine.after calls).load Player.interpreter program
    let bytes := program.bytes.toList
    loaded.fault = none ∧ ∃ result : RunResult Player,
      (∀ limit, bytes.length ≤ limit → loaded.state.run Player.interpreter limit = result) ∧
      result.machine.isEnd = true ∧ result.steps ≤ bytes.length ∧
      (∀ steps fault, Reading bytes steps fault ↔ steps = result.steps ∧ fault = result.fault) ∧
      (result.fault = none ↔ Accepted bytes) := by
  intro loaded bytes
  obtain ⟨hFault, hReads⟩ := reads_load ((wellFormed_create hRange hCreate).after hCalls hFit) program
  obtain ⟨steps, fault, hReading⟩ := @exists_reading bytes hSize
  obtain ⟨after, hEnd, hRun⟩ := run_of_reading hReads hReading
  have hOnly : ∀ others fault', Reading bytes others fault' → others = steps ∧ fault' = fault := by
    intro others fault' hOther
    obtain ⟨last, -, hOtherRun⟩ := run_of_reading hReads hOther
    have hSame := (hOtherRun _ hOther.steps_le).symm.trans (hRun _ hReading.steps_le)
    cases hSame
    exact ⟨rfl, rfl⟩
  refine ⟨hFault, ⟨after, steps, fault⟩, ?_, hEnd, hReading.steps_le, ?_, ?_⟩
  · exact fun limit hLimit => hRun limit (Nat.le_trans hReading.steps_le hLimit)
  · intro others fault'
    constructor
    · exact hOnly others fault'
    · rintro ⟨rfl, rfl⟩
      exact hReading
  · rw [accepted_iff]
    constructor
    · rintro rfl
      exact ⟨steps, hReading⟩
    · rintro ⟨others, hOther⟩
      exact (hOnly others none hOther).2.symm

/-- A wide character swallows a zero byte, and the instruction behind it is cut off. -/
theorem acceptance_of_cutText :
    let program : Program := ⟨"cut", #[0x61, 0x80, 0x00, 0x01, 0x05]⟩
    let calls : List Call := [.load ⟨"old", #[0x62]⟩, .setScreen ⟨6, 26⟩]
    ∃ machine, create narrowGeometry Player.idle = .ok machine ∧ ScreensFit machine calls ∧
      ∀ limit, 5 ≤ limit → ∃ after, after.isEnd = true ∧
        ((machine.after calls).load Player.interpreter program).state.run Player.interpreter limit =
          ⟨after, 3, some (.badProgram (.cutOff 5))⟩ := by
  intro program calls
  have hRange : narrowGeometry.InRange := ⟨⟨by decide, by decide⟩, by decide, by decide⟩
  have hCalls : ∀ call ∈ calls, call.InRange := by
    simp only [calls, List.forall_mem_cons, Call.InRange, List.not_mem_nil, false_implies,
      implies_true, and_true, true_and]
    exact ⟨by decide, by decide⟩
  have hRun : ∃ machine, create narrowGeometry Player.idle = .ok machine ∧
      ScreensFit machine calls := by
    refine ⟨_, rfl, ?_, ?_, trivial⟩
    · rintro _ ⟨⟩
    · intro _ _
      decide +kernel
  obtain ⟨machine, hCreate, hFit⟩ := hRun
  obtain ⟨-, ⟨after, steps, fault⟩, hAll, hEnd, -, hOnly, -⟩ :=
    @acceptance_of_calls _ _ hRange hCreate _ hCalls hFit program (by decide)
  have hReading : Reading program.bytes.toList 3 (some (.badProgram (.cutOff 5))) := by
    refine @Reading.intro _ [[0x61], [0x80, 0x00]] [0x01, 0x05] 1 _ ?_ rfl
      (.cutOff ⟨by decide, [0], by decide, _, .locate 0x05 0⟩)
    rw [List.forall_mem_cons, List.forall_mem_singleton]
    exact ⟨⟨_, .narrow (by decide) (by decide)⟩, _, .wide (by decide) 0x00⟩
  obtain ⟨rfl, rfl⟩ := (hOnly _ _).mp hReading
  exact ⟨machine, hCreate, hFit, fun limit hLimit => ⟨after, hEnd, hAll limit hLimit⟩⟩

end Machine
end Handheld

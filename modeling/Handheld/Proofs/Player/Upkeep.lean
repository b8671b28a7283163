import Handheld.Proofs.Machine.Furnished
import Handheld.Proofs.Player.Aged
import Handheld.Proofs.Player.Form

/-! # Upkeep of the memory

Whatever is called, and however it ends, the memory of a machine stays furnished. So the words of the
player are always written.
-/
set_option autoImplicit false
namespace Handheld

variable {contents : Contents} {work : Workspace}

namespace Player

def frame (player : Player) : List UInt8 :=
  Store.toLittleEndian 4 (UInt32.ofNat player.place).toNat ++
    Store.toLittleEndian 4 player.printed.toNat

theorem length_frame (player : Player) : player.frame.length = 8 := by
  rw [frame, List.length_append, Store.length_toLittleEndian, Store.length_toLittleEndian]

def Recorded (player : Player) (store : Store) : Prop :=
  ∀ (there : UInt32) (h : there.toNat < player.frame.length),
    store.readByte there = .ok player.frame[there.toNat]

theorem Recorded.readWord {player : Player} {store : Store} (h : player.Recorded store) :
    store.readWord 0 = .ok (UInt32.ofNat player.place) ∧ store.readWord 4 = .ok player.printed := by
  have hLength := player.length_frame
  have hPlace := Store.length_toLittleEndian 4 (UInt32.ofNat player.place).toNat
  have hCount := Store.length_toLittleEndian 4 player.printed.toNat
  have hZero : (0 : UInt32).toNat = 0 := rfl
  have hFour : (4 : UInt32).toNat = 4 := rfl
  constructor
  · apply Store.readWord_of_bytes (by decide)
    intro i hi there hThere
    rw [h there (by omega)]
    simp only [frame, hThere, hZero, Nat.zero_add, List.getElem_append_left hi]
  · apply Store.readWord_of_bytes (by decide)
    intro i hi there hThere
    have hBehind : (Store.toLittleEndian 4 (UInt32.ofNat player.place).toNat).length ≤ 4 + i := by
      omega
    rw [h there (by omega)]
    simp only [frame, hThere, hFour, List.getElem_append_right hBehind, hPlace,
      Nat.add_sub_cancel_left]

theorem Recorded.congr {player : Player} {store next : Store} (h : player.Recorded store)
    (hSame : ∀ there : UInt32, there.toNat < 8 → next.readByte there = store.readByte there) :
    player.Recorded next := by
  intro there hThere
  have hBelow : there.toNat < 8 := player.length_frame ▸ hThere
  rw [hSame there hBelow, h there hThere]

theorem record_furnished (h : work.store.Furnished contents) (player : Player) :
    (player.record work).fault = none ∧
    (∃ other, contents.SameShape other ∧ (player.record work).state.store.Furnished other) ∧
    ∀ there, (player.record work).state.store.readByte there =
      work.store.readOver 0 player.frame there := by
  have hWindow : work.space.window? = some contents.window := h.window?_eq
  obtain ⟨hFault, hWords, hRead⟩ := h.writeWords (UInt32.ofNat player.place) player.printed
  have hRecord : player.record work = (work.onStore fun store =>
      (store.writeWord 0 (UInt32.ofNat player.place)).andThen fun store =>
        store.writeWord (0 + 4) player.printed).mapFault .memory := by
    rw [record, hWindow]
    dsimp only
    rw [h.start_eq]
  rw [hRecord]
  exact ⟨congrArg (Option.map MachineError.memory) hFault, hWords, hRead⟩

theorem sameSizes_perform (instruction : Instruction) (console : Console) :
    console.pages.SameSizes (perform instruction console).pages :=
  TextPages.sameSizes_of_live (retired_perform instruction console)
    (congrArg PageView.size (samePage_perform instruction console).view_eq)

theorem furnished_perform (h : work.store.Furnished contents) (instruction : Instruction) :
    (work.onConsole (perform instruction)).store.Furnished contents :=
  h.withPages (sameSizes_perform instruction work.console)

theorem recorded_record (h : work.store.Furnished contents) (player : Player) :
    player.Recorded (player.record work).state.store := by
  intro there hThere
  obtain ⟨-, -, hRead⟩ := record_furnished h player
  rw [hRead, Store.readOver_inside hThere (Nat.zero_add _).symm]

theorem load_furnished (h : work.store.Furnished contents) (program : Program) (player : Player) :
    let loaded : Player := ⟨program.bytes, 0, 0, program.bytes.isEmpty⟩
    ∃ after other, Player.load program (player, work) = .done (loaded, after) ∧
      (other.bytes .runtime).size = (contents.bytes .runtime).size ∧
      after.store.Furnished other ∧ loaded.Recorded after.store := by
  intro loaded
  have hOpened : (Workspace.mk (work.space.modifyWindow openFrame) work.console).store.Furnished
      { contents with window := openFrame contents.window } := h.modifyWindow h.start_eq
  obtain ⟨hFault, ⟨other, hShape, hOther⟩, -⟩ := record_furnished hOpened loaded
  refine ⟨_, other, ?_, hShape.size_eq .runtime, hOther, recorded_record hOpened loaded⟩
  have hLoad : Player.load program (player, work) = Attempt.map (fun work => (loaded, work))
      (loaded.record ⟨work.space.modifyWindow openFrame, work.console⟩) := rfl
  rw [hLoad, Attempt.map, hFault]
  rfl

end Player

namespace Machine

/-- The memory is furnished and has a runtime region of such a size. -/
def Furnished (runtime : Nat) (machine : Machine Player) : Prop :=
  ∃ contents : Contents, (contents.bytes .runtime).size = runtime ∧
    machine.work.store.Furnished contents

variable {runtime : Nat} {machine : Machine Player}

theorem Furnished.prepare (h : Furnished runtime machine) :
    Furnished runtime (machine.prepare Player.interpreter) := by
  obtain ⟨contents, hSize, hStore⟩ := h
  refine ⟨contents.zeroed, Array.size_map.trans hSize, ?_⟩
  rw [work_prepare]
  let console := machine.work.clearAll.console
  exact hStore.clearAll.withPages (@Console.sameSizes_setScreen_same console console.size rfl)

theorem Furnished.load (h : Furnished runtime machine) (program : Program) :
    let loaded : Player := ⟨program.bytes, 0, 0, program.bytes.isEmpty⟩
    ∃ after, machine.load Player.interpreter program = .done after ∧ Furnished runtime after ∧
      after.interp = loaded ∧ after.isEnd = loaded.finished ∧ loaded.Recorded after.work.store := by
  intro loaded
  obtain ⟨contents, hSize, hStore⟩ := h.prepare
  rw [Machine.load]
  cases hPrepare : machine.prepare Player.interpreter with
  | mk interp work phase old =>
    rw [hPrepare] at hStore
    obtain ⟨after, other, hLoad, hKept, hOther, hRecorded⟩ :=
      Player.load_furnished hStore program interp
    have hInterpreter : Player.interpreter.load program (interp, work) = _ := hLoad
    rw [takeOver, hInterpreter]
    exact ⟨_, rfl, ⟨other, hKept.trans hSize, hOther⟩, rfl, isEnd_phaseOf _ _ _, hRecorded⟩

def performed (machine : Machine Player) (instruction : Instruction) (next : Nat) :
    Machine Player :=
  let player := machine.interp.advance instruction next
  let work := machine.work.onConsole (Player.perform instruction)
  ⟨player, (player.record work).state, phaseOf Player.interpreter player, machine.program⟩

inductive Stepped (machine : Machine Player) : Attempt MachineError (Machine Player) → Prop
  | refused (hPhase : machine.phase = .ended) : Stepped machine (.stopped .notLoaded machine)
  | finished (hPhase : machine.phase = .ready) (hOver : machine.interp.finished = true) :
      Stepped machine (.done { machine with phase := .ended })
  | undecoded (hPhase : machine.phase = .ready) {e : MachineError}
      (hDecode : Instruction.decode machine.interp.text machine.interp.place = .error e) :
      Stepped machine (.stopped e { machine with phase := .ended })
  | performed (hPhase : machine.phase = .ready) (hGoes : machine.interp.finished = false)
      {instruction : Instruction} {next : Nat}
      (hDecode :
        Instruction.decode machine.interp.text machine.interp.place = .ok (instruction, next)) :
      Stepped machine (.done (machine.performed instruction next))

theorem Furnished.stepped (h : Furnished runtime machine) :
    Stepped machine (machine.step Player.interpreter) := by
  obtain ⟨contents, -, hStore⟩ := h
  obtain ⟨player, work, phase, program⟩ := machine
  cases phase with
  | ended => exact .refused rfl
  | ready =>
    have hInterpreter : Player.interpreter.step (player, work) = Player.step (player, work) := rfl
    rw [Machine.step, hInterpreter, Player.step]
    cases hGoes : player.finished with
    | true =>
      have hPhase : phaseOf Player.interpreter player = .ended := if_pos hGoes
      rw [if_pos rfl]
      dsimp only [Attempt.done]
      rw [hPhase]
      exact .finished rfl hGoes
    | false =>
      rw [if_neg (by decide)]
      cases hDecode : Instruction.decode player.text player.place with
      | error e => exact .undecoded rfl hDecode
      | ok decoded =>
        obtain ⟨instruction, next⟩ := decoded
        obtain ⟨hFault, -, -⟩ := Player.record_furnished
          (Player.furnished_perform hStore instruction) (player.advance instruction next)
        dsimp only [Attempt.map]
        rw [hFault]
        exact .performed rfl hGoes hDecode

theorem Furnished.performed (h : Furnished runtime machine) (instruction : Instruction)
    (next : Nat) :
    Furnished runtime (machine.performed instruction next) ∧
      (machine.interp.advance instruction next).Recorded
        (machine.performed instruction next).work.store := by
  obtain ⟨contents, hSize, hStore⟩ := h
  have hPerformed := Player.furnished_perform hStore instruction
  obtain ⟨-, ⟨other, hShape, hOther⟩, -⟩ :=
    Player.record_furnished hPerformed (machine.interp.advance instruction next)
  exact ⟨⟨other, (hShape.size_eq .runtime).trans hSize, hOther⟩,
    Player.recorded_record hPerformed _⟩

theorem Furnished.step (h : Furnished runtime machine) :
    Furnished runtime (machine.step Player.interpreter).state := by
  have hStepped := h.stepped
  generalize machine.step Player.interpreter = attempt at hStepped
  cases hStepped with
  | refused | finished | undecoded => exact h
  | performed => exact (h.performed _ _).1

theorem Furnished.setScreen (h : Furnished runtime machine) {size : PixelSize}
    (hSize : size.InRange) :
    Furnished runtime (machine.setScreen size).state ∧
      ∀ there : UInt32, there.toNat < runtime →
        (machine.setScreen size).state.work.store.readByte there =
          machine.work.store.readByte there := by
  obtain ⟨contents, hRuntime, hStore⟩ := h
  obtain ⟨other, hBytes, -, hOther⟩ := furnished_setScreen hStore hSize
  refine ⟨⟨other, hBytes ▸ hRuntime, hOther⟩, fun there hThere => ?_⟩
  have hBefore : there.toNat < (contents.bytes .runtime).size := hRuntime ▸ hThere
  have hAfter : there.toNat < (other.bytes .runtime).size := hBytes ▸ hBefore
  rw [hStore.readByte_runtime hBefore, hOther.readByte_runtime hAfter]
  simp only [hBytes]

theorem Furnished.run (h : Furnished runtime machine) {call : Call} (hCall : call.InRange) :
    Furnished runtime (call.run machine).state := by
  cases call with
  | load program =>
    obtain ⟨after, hLoad, hAfter, -⟩ := h.load program
    rw [Call.run, hLoad]
    exact hAfter
  | step => exact h.step
  | dispose => exact h
  | setScreen size => exact (h.setScreen hCall).1

theorem Furnished.after (h : Furnished runtime machine) {calls : List Call}
    (hCalls : ∀ call ∈ calls, call.InRange) : Furnished runtime (machine.after calls) := by
  induction calls generalizing machine with
  | nil => exact h
  | cons call rest ih =>
    rw [List.forall_mem_cons] at hCalls
    exact ih (h.run hCalls.1) hCalls.2

theorem furnished_of_calls {geometry : Geometry} (hRange : geometry.InRange)
    (hCreate : create geometry Player.idle = .ok machine) {calls : List Call}
    (hCalls : ∀ call ∈ calls, call.InRange) :
    Furnished geometry.runtimeSize (machine.after calls) :=
  Furnished.after (furnished_create hRange hCreate) hCalls

end Machine
end Handheld

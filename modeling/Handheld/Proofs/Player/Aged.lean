import Handheld.Machine.Basic
import Handheld.Player.Basic
import Handheld.Proofs.Memory.Aged

/-! # Machines of different age

A machine that has been in use for longer has counted more scrolls and put pages away. The player
reads neither, so that it does on the older machine what it does on the younger one, step by step.
-/
set_option autoImplicit false
namespace Handheld

namespace Grid

def aged (lead : Nat) (grid : Grid) : Grid := { grid with scrolls := grid.scrolls + lead }

variable (lead : Nat) (grid : Grid)

theorem moveUp_aged : (grid.aged lead).moveUp = grid.moveUp.aged lead := by
  rw [moveUp, moveUp, apply_ite (aged lead)]
  refine congrArg (ite _ _) ?_
  rw [aged, aged, Nat.add_right_comm]
  rfl

theorem settle_aged : (grid.aged lead).settle = grid.settle.aged lead := by
  rw [settle, settle, apply_ite (aged lead), moveUp_aged]
  rfl

theorem newline_aged : (grid.aged lead).newline = grid.newline.aged lead :=
  grid.nextRow.settle_aged lead

theorem wrap_aged : (grid.aged lead).wrap = grid.wrap.aged lead := by
  rw [wrap, wrap, apply_ite (aged lead)]
  rfl

theorem makeRoom_aged : (grid.aged lead).makeRoom = grid.makeRoom.aged lead := by
  rw [makeRoom, makeRoom, apply_ite (aged lead), ← newline_aged]
  rfl

theorem addWide_aged (first follower : UInt8) :
    (grid.aged lead).addWide first follower = (grid.addWide first follower).aged lead := by
  rw [addWide, addWide, makeRoom_aged, ← wrap_aged]
  rfl

theorem addNarrow_aged (value : UInt8) :
    (grid.aged lead).addNarrow value = (grid.addNarrow value).aged lead := by
  rw [addNarrow, addNarrow, apply_ite (aged lead), apply_ite (aged lead), ← wrap_aged,
    ← newline_aged]
  rfl

theorem addChar_aged (code : UInt16) :
    (grid.aged lead).addChar code = (grid.addChar code).aged lead := by
  rw [addChar, addChar, apply_ite (aged lead), settle_aged, addWide_aged, addNarrow_aged]

end Grid

namespace Console

def aged (lead : Nat) (retired : Array (Array UInt8)) (console : Console) : Console :=
  { console with grid := console.grid.aged lead, retired := retired }

theorem addChar_aged (lead : Nat) (retired : Array (Array UInt8)) (console : Console)
    (code : UInt16) :
    (console.aged lead retired).addChar code = (console.addChar code).aged lead retired :=
  congrArg (fun grid => { console with grid, retired }) (console.grid.addChar_aged lead code)

theorem perform_aged (lead : Nat) (retired : Array (Array UInt8)) (instruction : Instruction)
    (console : Console) :
    Player.perform instruction (console.aged lead retired) =
      (Player.perform instruction console).aged lead retired := by
  cases instruction with
  | finish | locate | setFont | clear => rfl
  | scroll =>
    have hGrid : (console.aged lead retired).scrollUp = console.scrollUp.aged lead retired :=
      congrArg (fun grid => { console with grid, retired }) (console.grid.moveUp_aged lead)
    rw [Player.perform, Player.perform, hGrid]
    rfl
  | print code =>
    have hStays (after : Console) :
        ((after.aged lead retired).grid.scrolls = (console.aged lead retired).grid.scrolls) =
          (after.grid.scrolls = console.grid.scrolls) := propext Nat.add_right_cancel_iff
    rw [Player.perform, Player.perform, Player.print, Player.print, addChar_aged]
    simp only [hStays]
    rfl

end Console

namespace Workspace

def aged (lead : Nat) (retired : Array (Array UInt8)) (work : Workspace) : Workspace where
  space := work.space.renumber retired.size
  console := work.console.aged lead retired

variable (lead : Nat) (retired : Array (Array UInt8)) {work : Workspace}

theorem onStore_aged {act : Store → Attempt MemoryError Store}
    (h : Store.AgedTogether retired (act work.store) (act (work.store.aged retired))) :
    (work.aged lead retired).onStore act = (work.onStore act).map (aged lead retired) := by
  have hAct : (work.aged lead retired).onStore act =
      (act (work.store.aged retired)).map fun store =>
        ⟨store.space, (work.console.aged lead retired).withPages store.pages⟩ := rfl
  rw [hAct, h.same]
  rfl

end Workspace

namespace Player
variable (lead : Nat) (retired : Array (Array UInt8)) {work : Workspace}

theorem record_aged (hLive : work.store.Live) (player : Player) :
    player.record (work.aged lead retired) =
      (player.record work).map (Workspace.aged lead retired) := by
  rw [record, record]
  dsimp only [Workspace.aged]
  rw [AddressSpace.window?_renumber]
  cases work.space.window? with
  | none => rfl
  | some window =>
    let act : Store → Attempt MemoryError Store := fun store =>
      (store.writeWord window.start (UInt32.ofNat player.place)).andThen fun store =>
        store.writeWord (window.start + 4) player.printed
    have hWords : Store.AgedTogether retired (act work.store) (act (work.store.aged retired)) :=
      (Store.writeWord_aged hLive _ _).andThen fun _ hAfter => Store.writeWord_aged hAfter _ _
    exact congrArg (Attempt.mapFault MachineError.memory) (Workspace.onStore_aged lead retired hWords)

theorem retired_perform (instruction : Instruction) (console : Console) :
    (perform instruction console).retired = console.retired := by
  cases instruction
  all_goals rfl

theorem step_aged (hLive : work.store.Live) (player : Player) :
    Player.step (player, work.aged lead retired) =
      (Player.step (player, work)).map fun (player, work) => (player, work.aged lead retired) := by
  rw [Player.step, Player.step]
  split
  · rfl
  · split
    · rfl
    · rename_i instruction next _
      have hConsole : (work.aged lead retired).onConsole (perform instruction) =
          (work.onConsole (perform instruction)).aged lead retired :=
        congrArg (Workspace.mk _) (Console.perform_aged lead retired instruction work.console)
      have hPerformed : (work.onConsole (perform instruction)).store.Live := by
        intro region hRegion view hView
        rw [hLive region hRegion view hView]
        exact congrArg Array.size (retired_perform instruction work.console).symm
      dsimp only
      rw [hConsole, record_aged lead retired hPerformed]
      rfl

end Player

namespace Machine
variable (lead : Nat) (retired : Array (Array UInt8)) {machine : Machine Player}

def aged (machine : Machine Player) : Machine Player :=
  { machine with work := machine.work.aged lead retired }

theorem step_aged (hLive : machine.work.store.Live) :
    (machine.aged lead retired).step Player.interpreter =
      (machine.step Player.interpreter).map (aged lead retired) := by
  obtain ⟨player, work, phase, program⟩ := machine
  cases phase with
  | ended => rfl
  | ready =>
    have hStep : Player.interpreter.step (player, work.aged lead retired) =
        (Player.interpreter.step (player, work)).map
          fun (player, work) => (player, work.aged lead retired) :=
      Player.step_aged lead retired hLive player
    rw [aged]
    dsimp only [step]
    rw [hStep]
    dsimp only [Attempt.map]
    cases (Player.interpreter.step (player, work)).fault with
    | none => rfl
    | some e => rfl

end Machine
end Handheld

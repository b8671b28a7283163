import Handheld.Proofs.Display.Tall
import Handheld.Proofs.Player.Redraw

/-! # Drawing between steps

Which requests to draw are pending makes no difference to the player: a machine whose requests were
met after every step goes the way of one that nobody draws. And what is drawn each time shows the
whole console.
-/
set_option autoImplicit false
namespace Handheld

namespace Player

theorem settlePending_perform (instruction : Instruction) (console : Console) :
    (perform instruction console.settlePending).settlePending =
      (perform instruction console).settlePending := by
  cases instruction
  all_goals rfl

theorem record_settled (player : Player) (work : Workspace) :
    player.record (work.onConsole Console.settlePending) =
      (player.record work).map (Workspace.onConsole Console.settlePending) := by
  obtain ⟨space, console⟩ := work
  rw [record, record]
  dsimp only [Workspace.onConsole]
  cases space.window? with
  | none => rfl
  | some window => rfl

theorem step_settled (player : Player) (work : Workspace) :
    (Player.step (player, work.onConsole Console.settlePending)).map
        (fun (player, work) => (player, work.onConsole Console.settlePending)) =
      (Player.step (player, work)).map
        fun (player, work) => (player, work.onConsole Console.settlePending) := by
  rw [Player.step, Player.step]
  split
  · rfl
  · split
    · rfl
    · rename_i instruction next _
      have hConsole : ((work.onConsole Console.settlePending).onConsole
            (perform instruction)).onConsole Console.settlePending =
          (work.onConsole (perform instruction)).onConsole Console.settlePending :=
        congrArg (Workspace.mk work.space) (settlePending_perform instruction work.console)
      have hRecord := congrArg (player.advance instruction next).record hConsole
      rw [record_settled, record_settled] at hRecord
      exact congrArg (Attempt.map fun work => (player.advance instruction next, work)) hRecord

end Player

namespace Machine
variable {geometry : Geometry} {machine other : Machine Player}

def settled (machine : Machine Player) : Machine Player := machine.onConsole Console.settlePending

theorem WellFormed.requestRefresh (h : WellFormed geometry machine) (mask : UInt8) :
    WellFormed geometry (machine.onConsole fun console => console.requestRefresh mask) := by
  obtain ⟨contents, hStart, hAssembled⟩ := h
  exact ⟨contents, hStart,
    hAssembled.withConsole ⟨rfl, rfl⟩ (hAssembled.sound.apply (.requestRefresh mask))⟩

theorem step_settled (machine : Machine Player) :
    (machine.settled.step Player.interpreter).map settled =
      (machine.step Player.interpreter).map settled := by
  obtain ⟨player, work, phase, program⟩ := machine
  cases phase with
  | ended => rfl
  | ready =>
    have hStep := Player.step_settled player work
    have hFault := congrArg Attempt.fault hStep
    have hPlayer := congrArg (fun attempt => attempt.state.1) hStep
    have hWork := congrArg (fun attempt => attempt.state.2) hStep
    dsimp only [Attempt.map] at hFault hPlayer hWork
    have hInterpreter (work : Workspace) :
        Player.interpreter.step (player, work) = Player.step (player, work) := rfl
    dsimp only [settled, onConsole, step, Attempt.map]
    rw [hInterpreter, hInterpreter, hFault]
    cases (Player.step (player, work)).fault with
    | none =>
      dsimp only [Attempt.done]
      rw [hPlayer, hWork]
    | some e =>
      dsimp only [Attempt.stopped]
      rw [hPlayer, hWork]

theorem settled_step (h : machine.settled = other.settled) :
    (machine.step Player.interpreter).state.settled =
        (other.step Player.interpreter).state.settled ∧
      (machine.step Player.interpreter).fault = (other.step Player.interpreter).fault := by
  have hSame : (machine.step Player.interpreter).map settled =
      (other.step Player.interpreter).map settled := by
    rw [← step_settled, h, step_settled]
  have hFault := congrArg Attempt.fault hSame
  exact ⟨congrArg Attempt.state hSame, hFault⟩

theorem step_of_fault (h : WellFormed geometry machine)
    (hFault : (machine.step Player.interpreter).fault ≠ none) :
    (machine.step Player.interpreter).state.work = machine.work ∧
      (machine.step Player.interpreter).state.isEnd = true := by
  obtain ⟨contents, hStart, hAssembled⟩ := h
  obtain ⟨player, work, phase, program⟩ := machine
  cases phase with
  | ended => exact ⟨rfl, rfl⟩
  | ready =>
    have hInterpreter : Player.interpreter.step (player, work) = Player.step (player, work) := rfl
    simp only [step, hInterpreter] at hFault ⊢
    rcases Player.step_cases hAssembled hStart player with
      hStill | ⟨e, hStopped⟩ | ⟨instruction, next, other, -, -, hDone⟩
    · rw [hStill] at hFault
      exact absurd rfl hFault
    · rw [hStopped]
      exact ⟨rfl, rfl⟩
    · rw [hDone] at hFault
      exact absurd rfl hFault

end Machine

namespace Player

theorem font_perform (instruction : Instruction) (console : Console) :
    (perform instruction console).font = console.font ∨
      (perform instruction console).pending = console.pending &&& RefreshMask.everything := by
  cases instruction with
  | setFont code => exact .inr rfl
  | finish | locate | scroll | clear | print => exact .inl rfl

theorem Covers.reached {console after : Console} {mask : UInt8} (h : Covers console after mask)
    (hFont : after.font = console.font ∨ mask = RefreshMask.everything) :
    Covers console.reached after.reached mask := by
  obtain hFont | rfl := hFont
  · intro i old hOld
    rw [Console.rowText_reached] at hOld ⊢
    rw [hFont]
    by_cases hReached : i < console.font.reachedRows
    · rw [if_pos hReached] at hOld ⊢
      rw [Console.redrawn_reached _ (by rwa [hFont])]
      exact h i old hOld
    · have hStill : ¬ i < after.font.reachedRows := by rwa [hFont]
      rw [if_neg hReached] at hOld ⊢
      rw [Console.redrawn_of_unreached after hStill]
      split
      · rfl
      · exact hOld
  · exact covers_everything _ _

end Player

theorem Machine.covers_step {geometry : Geometry} {machine : Machine Player}
    (h : WellFormed geometry machine)
    (hPending : machine.work.console.pending = RefreshMask.nothing) :
    Player.Covers machine.work.console.reached
      (machine.step Player.interpreter).state.work.console.reached
      (machine.step Player.interpreter).state.work.console.pending := by
  obtain ⟨-, hStill | ⟨instruction, hPerformed⟩⟩ := step_spec h
  · rw [hStill, hPending]
    exact Player.covers_nothing fun _ => rfl
  · rw [hPerformed]
    refine (Player.covers_perform h.sound hPending instruction).reached ?_
    obtain hFont | hAll := Player.font_perform instruction machine.work.console
    · exact .inl hFont
    · rw [hPending, RefreshMask.nothing_and] at hAll
      exact .inr hAll

namespace Lcd
variable {lcd : Lcd} {before after : Console}

theorem redraw_shows (h : lcd.Shows before.reached) (hSound : after.Sound)
    (hSize : after.size = before.size) (hHeight : after.size.height < 0x100000000)
    (hCovers : Player.Covers before.reached after.reached after.pending) :
    ∃ drawn, after.redraw surface lcd = .done (after.settlePending, drawn) ∧
      drawn.Shows after.settlePending.reached := by
  rw [Console.redraw, Console.isDirty]
  by_cases hPending : after.pending = RefreshMask.nothing
  · have hSettled : after.settlePending = after := by
      rw [Console.settlePending, ← hPending]
    refine ⟨lcd, ?_, ?_⟩
    · rw [hPending, hSettled]
      rfl
    · rw [hSettled]
      refine ⟨h.free, h.size_eq.trans hSize.symm, ?_, ?_⟩
      · rw [h.count_eq]
        exact congrArg (Font.small.rows ·) hSize.symm
      · intro i line hLine
        have hCovered := hCovers i line (h.line_eq i line hLine)
        rwa [hPending, Console.redrawn_nothing] at hCovered
  · have hBegin : surface.beginDraw lcd = .done { lcd with locked := true } := by
      change beginDraw lcd = _
      rw [beginDraw, h.free]
      rfl
    obtain ⟨drawn, hPresent, hDrawn⟩ := h.present after.reaching_reached hSize hCovers
    rw [Surface.present, hBegin, Attempt.done_andThen, ← drawAll_reached hSound hHeight] at hPresent
    have hSession := congrArg Attempt.state hPresent
    refine ⟨drawn, ?_, hDrawn.free, hDrawn.size_eq, hDrawn.count_eq, hDrawn.line_eq⟩
    rw [if_pos (bne_iff_ne.mpr hPending), hBegin]
    exact congrArg (fun screen => Attempt.done (after.settlePending, screen)) hSession

theorem shows_reached (hSound : after.Sound) (hHeight : after.size.height < 0x100000000)
    (name : String) :
    ∃ drawn : Lcd,
      surface.present (after.refreshCalls RefreshMask.everything) (ofSize name after.size) =
        .done drawn ∧ drawn.Shows after.reached := by
  obtain ⟨drawn, hPresent, hDrawn⟩ := shows_everything_of_reaching after.reaching_reached name
  refine ⟨drawn, ?_, hDrawn⟩
  rw [← hPresent]
  change ((surface.beginDraw (ofSize name after.size)).andThen fun screen => _) = _
  simp only [drawAll_reached hSound hHeight]
  rfl

end Lcd

end Handheld

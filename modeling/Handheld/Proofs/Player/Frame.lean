import Handheld.Player.Basic
import Handheld.Proofs.Machine.Reading

/-! # The frame of the text player

The player keeps its two words at the start of memory, in front of the text. Recording them always
succeeds and leaves the console alone, so that loading never fails and a step fails only where the
text cannot be decoded.
-/
set_option autoImplicit false
namespace Handheld
open Workspace

variable {geometry : Geometry} {contents : Contents} {work : Workspace}

namespace Player

theorem record_eq (h : Assembled geometry contents work) (hStart : contents.window.start = 0)
    (player : Player) :
    ∃ other : Contents, contents.SameShape other ∧
      player.record work = .done ⟨other.space, work.console⟩ := by
  have hWindow := h.window?_eq
  obtain ⟨space, console⟩ := work
  obtain rfl : space = contents.space := h.space_eq
  have hText := Contents.eight_le_baseOf_text h.fits
  have hZero : (0 : UInt32).toNat = 0 := rfl
  have hFour : (0 + 4 : UInt32).toNat = 4 := rfl
  have hPlaceEnd : (0 : UInt32).toNat + 4 ≤ geometry.baseOf .text := by omega
  have hCountEnd : (0 + 4 : UInt32).toNat + 4 ≤ geometry.baseOf .text := by omega
  obtain ⟨middle, hMiddle, hPlace⟩ := Contents.writeWord_below_text h.measures h.fits hPlaceEnd
    console.pages (UInt32.ofNat player.place)
  obtain ⟨last, hLast, hCount⟩ := Contents.writeWord_below_text (hMiddle.measures h.measures)
    h.fits hCountEnd console.pages player.printed
  refine ⟨last, hMiddle.trans hLast, ?_⟩
  rw [record, hWindow]
  dsimp only [Workspace.onStore]
  rw [hStart, hPlace, Attempt.done_andThen, hCount]
  rfl

theorem load_eq (h : Assembled geometry contents work) (hStart : contents.window.start = 0)
    (program : Program) (player : Player) :
    ∃ other : Contents, other.window.start = 0 ∧
      Assembled geometry other ⟨other.space, work.console⟩ ∧
      Player.load program (player, work) =
        .done (⟨program.bytes, 0, 0, program.bytes.isEmpty⟩, ⟨other.space, work.console⟩) := by
  have hMoved := h.modifyWindow fun window => { window with stop := window.start + frameSize }
  obtain ⟨other, hShape, hRecord⟩ :=
    record_eq hMoved hStart ⟨program.bytes, 0, 0, program.bytes.isEmpty⟩
  refine ⟨other, ?_, hMoved.withContents hShape, ?_⟩
  · rw [hShape.window_eq]
    exact hStart
  · rw [Player.load, hRecord]
    rfl

theorem samePage_perform (instruction : Instruction) (console : Console) :
    console.SamePage (perform instruction console) := by
  cases instruction with
  | finish => exact ⟨rfl, rfl⟩
  | locate row col => exact Console.samePage_withGrid (Grid.dims_locate _ _ _)
  | setFont code =>
    have hSame := Console.samePage_setFont console (.ofCode code.toNat)
    exact ⟨hSame.size_eq, hSame.view_eq⟩
  | scroll =>
    have hSame := @Console.samePage_withGrid console _ (Grid.dims_moveUp _)
    exact ⟨hSame.size_eq, hSame.view_eq⟩
  | clear =>
    have hSame := Console.samePage_setFont console console.font
    exact ⟨hSame.size_eq, hSame.view_eq⟩
  | print code =>
    have hSame := @Console.samePage_withGrid console _ (Grid.dims_addChar _ code)
    exact ⟨hSame.size_eq, hSame.view_eq⟩

theorem sound_perform (instruction : Instruction) {console : Console} (h : console.Sound) :
    (perform instruction console).Sound := by
  cases instruction with
  | finish => exact h
  | locate row col => exact h.apply (.text (.locate row.toNat col.toNat))
  | setFont code => exact (h.setFont _).apply (.requestRefresh _)
  | scroll => exact (h.apply (.text .scrollUp)).apply (.requestRefresh _)
  | clear => exact (h.setFont _).apply (.requestRefresh _)
  | print code => exact (h.apply (.text (.addChar code))).apply (.requestRefresh _)

theorem step_of_decode (h : Assembled geometry contents work) (hStart : contents.window.start = 0)
    {player : Player} (hGoes : player.finished = false) {instruction : Instruction} {next : Nat}
    (hDecode : Instruction.decode player.text player.place = .ok (instruction, next)) :
    ∃ other : Contents, contents.SameShape other ∧
      Assembled geometry other ⟨other.space, perform instruction work.console⟩ ∧
      Player.step (player, work) =
        .done (player.advance instruction next,
          ⟨other.space, perform instruction work.console⟩) := by
  have hPerformed :=
    h.withConsole (samePage_perform instruction work.console) (sound_perform instruction h.sound)
  obtain ⟨other, hShape, hRecord⟩ :=
    record_eq hPerformed hStart (player.advance instruction next)
  have hWork : work.onConsole (perform instruction) =
      ⟨work.space, perform instruction work.console⟩ := rfl
  refine ⟨other, hShape, hPerformed.withContents hShape, ?_⟩
  rw [Player.step, hGoes, if_neg (by decide), hDecode]
  dsimp only
  rw [hWork, hRecord]
  rfl

theorem step_cases (h : Assembled geometry contents work) (hStart : contents.window.start = 0)
    (player : Player) :
    Player.step (player, work) = .done (player, work) ∨
    (∃ e, Player.step (player, work) = .stopped e (player, work)) ∨
    ∃ (instruction : Instruction) (next : Nat) (other : Contents), contents.SameShape other ∧
      Assembled geometry other ⟨other.space, perform instruction work.console⟩ ∧
      Player.step (player, work) =
        .done (player.advance instruction next,
          ⟨other.space, perform instruction work.console⟩) := by
  cases hGoes : player.finished with
  | true =>
    left
    rw [Player.step, hGoes]
    rfl
  | false =>
    right
    cases hDecode : Instruction.decode player.text player.place with
    | error e =>
      left
      refine ⟨e, ?_⟩
      rw [Player.step, hGoes, if_neg (by decide), hDecode]
    | ok decoded =>
      obtain ⟨instruction, next⟩ := decoded
      exact .inr ⟨instruction, next, step_of_decode h hStart hGoes hDecode⟩

end Player
end Handheld

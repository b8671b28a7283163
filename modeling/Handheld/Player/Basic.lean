import Handheld.Machine.Interpreter
import Handheld.Player.Instruction

/-! # The text player

The player prints the text of its program on the console and asks for the rows it changed to be
drawn. It keeps its place and the number of characters printed in the frame window of the program,
as two words.
-/
set_option autoImplicit false
namespace Handheld

structure Player where
  text : Array UInt8
  place : Nat
  printed : UInt32
  finished : Bool

namespace Player

def idle : Player := ⟨#[], 0, 0, true⟩

/-- Prints a character. If the cursor stays in its row without a scroll, only that row has to be
drawn. -/
def print (code : UInt16) (console : Console) : Console :=
  let after := console.addChar code
  let stays := after.grid.scrolls = console.grid.scrolls ∧ after.grid.row = console.grid.row ∧
    console.grid.row < 8
  after.requestRefresh
    (if stays then RefreshMask.only console.grid.row else RefreshMask.everything)

def perform : Instruction → Console → Console
  | .finish, console => console
  | .locate row col, console => console.locate row.toNat col.toNat
  | .setFont code, console =>
    (console.setFont (.ofCode code.toNat)).requestRefresh RefreshMask.everything
  | .scroll, console => console.scrollUp.requestRefresh RefreshMask.everything
  | .clear, console => (console.setFont console.font).requestRefresh RefreshMask.everything
  | .print code, console => print code console

/-- The player after an instruction whose successor begins at an offset. It is finished at the end
of its text. -/
def advance (player : Player) (instruction : Instruction) (next : Nat) : Player where
  text := player.text
  place := next
  printed := match instruction with
    | .print _ => player.printed + 1
    | _ => player.printed
  finished := instruction = .finish ∨ player.text.size ≤ next

def record (player : Player) (work : Workspace) : Attempt MachineError Workspace :=
  match work.space.window? with
  | none => .done work
  | some window =>
    let attempt := work.onStore fun store =>
      (store.writeWord window.start (UInt32.ofNat player.place)).andThen fun store =>
        store.writeWord (window.start + 4) player.printed
    attempt.mapFault .memory

def frameSize : UInt32 := 8

def load (program : Program) : Player × Workspace → Attempt MachineError (Player × Workspace)
  | (_, ⟨space, console⟩) =>
    let player : Player := ⟨program.bytes, 0, 0, program.bytes.isEmpty⟩
    let space := space.modifyWindow fun window => { window with stop := window.start + frameSize }
    (player.record ⟨space, console⟩).map fun work => (player, work)

/-- One instruction. One that cannot be decoded changes nothing. -/
def step : Player × Workspace → Attempt MachineError (Player × Workspace)
  | (player, work) =>
    if player.finished then .done (player, work)
    else
      match Instruction.decode player.text player.place with
      | .error e => .stopped e (player, work)
      | .ok (instruction, next) =>
        let player := player.advance instruction next
        (player.record (work.onConsole (perform instruction))).map fun work => (player, work)

def dispose (player : Player) : Player := ⟨#[], 0, player.printed, true⟩

def interpreter : Interpreter Player := ⟨load, step, Player.finished, dispose⟩

end Player
end Handheld

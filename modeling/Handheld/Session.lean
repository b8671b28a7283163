import Handheld.CommandLine
import Handheld.Display.Lcd
import Handheld.Files
import Handheld.Player.Basic
import Handheld.Runner.Schedule
import Handheld.Settings.Reading
import Handheld.Text.Quoted

/-! # Sessions

A session reads its settings and its program, runs the program on a machine with a line display,
and reports what the display shows at the end.
-/
set_option autoImplicit false
namespace Handheld

inductive SessionError
  | unreadableSettings (path : String)
  | badSettings (path : String)
  | badScreen (size : PixelSize)
  | unreadableProgram (path : String)
  | noMachine (e : MachineError)
  deriving DecidableEq

def SessionError.message : SessionError → String
  | unreadableSettings path => s!"无法读取配置文件: {Quoted.encode path}"
  | badSettings path => s!"无法解析配置文件: {Quoted.encode path}"
  | badScreen size => s!"屏幕尺寸无效: {size.width}x{size.height}"
  | unreadableProgram path => s!"无法读取程序文件 '{path}'"
  | noMachine _ => "无法创建虚拟机"

def Program.ofFile (files : Files) (path : String) : Except SessionError Program :=
  match files.read? path with
  | none => .error (.unreadableProgram path)
  | some bytes => .ok ⟨Program.nameOfPath path, bytes.data⟩

namespace Session

/-- A relative path starts at the base directory. -/
def locate (base path : String) : String :=
  if path.startsWith "/" then path else base ++ "/" ++ path

def settingsOfFile (files : Files) (path : String) : Except SessionError Settings :=
  match (files.read? path).bind String.fromUTF8? with
  | none => .error (.unreadableSettings path)
  | some document =>
    match Settings.parse? document with
    | none => .error (.badSettings path)
    | some settings => .ok settings

/-- The settings of the arguments go before those of the file. -/
def override (arguments : Arguments) (settings : Settings) : Settings where
  screen :=
    { width := arguments.width.getD settings.screen.width
      height := arguments.height.getD settings.screen.height }
  memory := settings.memory
  pace :=
    { settings.pace with
      exitOnFinish := arguments.exitOnFinish || settings.pace.exitOnFinish }
  eventSlots := settings.eventSlots

/-- The settings of a session; a screen without pixels is refused. -/
def settings (files : Files) (base : String) (arguments : Arguments) :
    Except SessionError Settings := do
  let settings := override arguments (← settingsOfFile files (locate base arguments.config))
  if settings.screen.width = 0 || settings.screen.height = 0 then
    throw (.badScreen settings.screen)
  return settings

/-- Rows of bytes in hexadecimal digits, each behind the number of its first byte. -/
def dumpRows (cols first : Nat) (bytes : List UInt8) : String :=
  match bytes with
  | [] => ""
  | byte :: rest =>
    Hexadecimal.digits 4 first ++ ": " ++ Hexadecimal.dump (byte :: rest.take (cols - 1)) ++ "\n" ++
      dumpRows cols (first + cols) (rest.drop (cols - 1))
termination_by bytes.length
decreasing_by
  simp only [List.length_drop, List.length_cons]
  omega

def report (dumpText : Bool) (machine : Machine Player) (lcd : Lcd) : String :=
  let grid := machine.work.console.grid
  lcd.snapshot ++ "\n" ++
    if dumpText then dumpRows (max grid.cols 1) 0 grid.cells.toList else ""

structure Outcome where
  output : String
  exited : Bool

def play (settings : Settings) (program : Program) (machine : Machine Player)
    (dumpText : Bool) : Outcome :=
  let rig : Rig Player Lcd := ⟨Player.interpreter, Lcd.surface, settings.pace.exitOnFinish⟩
  let runner := Runner.create machine (Lcd.ofSize "lcd" settings.screen) settings.eventSlots
  let played := (Schedule.begin rig .free runner).request (.launch program)
  let output := match played.shutdown.1 with
    | some (machine, lcd) => report dumpText machine lcd
    | none => ""
  ⟨output, played.runner.control.state = .exited⟩

def run (files : Files) (base : String) (arguments : Arguments) :
    Except SessionError Outcome := do
  let settings ← settings files base arguments
  let program ← Program.ofFile files arguments.app
  match Machine.create settings.geometry Player.idle with
  | .error e => throw (.noMachine e)
  | .ok machine => return play settings program machine arguments.dumpText

end Session
end Handheld

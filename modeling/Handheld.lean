import Handheld.Display.Guarded
import Handheld.Machine.Counted
import Handheld.Machine.Run
import Handheld.Main
import Handheld.Proofs.Console.Characters
import Handheld.Proofs.Console.Page
import Handheld.Proofs.Console.Scrolling
import Handheld.Proofs.Display.Bands
import Handheld.Proofs.Display.Heights
import Handheld.Proofs.Display.Merging
import Handheld.Proofs.Machine.FailedLoad
import Handheld.Proofs.Memory.Gaps
import Handheld.Proofs.Memory.Overflow
import Handheld.Proofs.Player.FailedResize
import Handheld.Proofs.Player.Faults
import Handheld.Proofs.Player.Footprint
import Handheld.Proofs.Player.Forgetting
import Handheld.Proofs.Player.FrameWindow
import Handheld.Proofs.Player.Printing
import Handheld.Proofs.Player.Progress
import Handheld.Proofs.Runner.AfterFault
import Handheld.Proofs.Runner.DirectRun
import Handheld.Proofs.Runner.Resting
import Handheld.Proofs.Runner.WakeUp
import Handheld.Proofs.Memory.Replacement

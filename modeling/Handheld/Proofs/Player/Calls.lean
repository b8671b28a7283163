import Handheld.Proofs.Player.Machine

/-! # Machines in use

Whatever programs are loaded, stepped and let go, and however often the screen changes, the memory
of a machine consists of the five regions for the screen set last, and its text region is the page
that the console writes. A new screen costs the text and both pictures and nothing else.
-/
set_option autoImplicit false
namespace Handheld
open Workspace

inductive Call
  | load (program : Program)
  | step
  | dispose
  | setScreen (size : PixelSize)

namespace Call

def run (machine : Machine Player) : Call → Attempt MachineError (Machine Player)
  | load program => machine.load Player.interpreter program
  | step => machine.step Player.interpreter
  | dispose => .done (machine.dispose Player.interpreter)
  | setScreen size => machine.setScreen size

def screen (old : PixelSize) : Call → PixelSize
  | setScreen size => size
  | _ => old

def InRange : Call → Prop
  | setScreen size => size.InRange
  | _ => True

instance (call : Call) : Decidable call.InRange :=
  match call with
  | setScreen size => inferInstanceAs (Decidable size.InRange)
  | load _ | step | dispose => instDecidableTrue

end Call

namespace Machine

/-- The machine after calls; it goes on after a fault. -/
def after (machine : Machine Player) (calls : List Call) : Machine Player :=
  calls.foldl (fun machine call => (call.run machine).state) machine

/-- Every change of screen among the calls succeeds; other calls may fail. -/
def ScreensFit (machine : Machine Player) : List Call → Prop
  | [] => True
  | call :: rest =>
    (∀ size, call = .setScreen size → (call.run machine).fault = none) ∧
      ScreensFit (call.run machine).state rest

variable {geometry : Geometry} {machine : Machine Player}

theorem WellFormed.run (h : WellFormed geometry machine) {call : Call} (hCall : call.InRange)
    (hFit : ∀ size, call = .setScreen size → (call.run machine).fault = none) :
    WellFormed { geometry with screen := call.screen geometry.screen }
      (call.run machine).state := by
  cases call with
  | load program => exact (load_spec h program).1
  | step => exact (step_spec h).1
  | dispose => exact h.dispose
  | setScreen size => exact h.setScreen hCall (hFit size rfl)

theorem WellFormed.after (h : WellFormed geometry machine) {calls : List Call}
    (hCalls : ∀ call ∈ calls, call.InRange) (hFit : ScreensFit machine calls) :
    WellFormed { geometry with screen := calls.foldl Call.screen geometry.screen }
      (machine.after calls) := by
  induction calls generalizing geometry machine with
  | nil => exact h
  | cons call rest ih =>
    rw [List.forall_mem_cons] at hCalls
    exact ih (h.run hCalls.1 hFit.1) hCalls.2 hFit.2

theorem readIn_setScreen {contents : Contents} (h : Assembled geometry contents machine.work)
    {size : PixelSize} (hSize : size.InRange) (hNew : size ≠ machine.work.console.size)
    (hOk : (machine.setScreen size).fault = none) {kind : RegionKind}
    (hKind : kind = .runtime ∨ kind = .string) {i : Nat} (hi : i < geometry.sizeOf kind) :
    ∃ value, machine.work.readIn kind i = .ok value ∧
      (machine.setScreen size).state.work.readIn kind i = .ok value := by
  obtain ⟨_, hNext⟩ := assembled_setScreen h hSize hNew hOk
  have hText : kind ≠ .text := by
    rcases hKind with rfl | rfl
    · decide
    · decide
  have hKept : Geometry.sizeOf { geometry with screen := size } kind = geometry.sizeOf kind ∧
      (contents.fitted size (machine.work.console.setScreen size).pages.view).bytes kind =
        contents.bytes kind := by
    rcases hKind with rfl | rfl
    · exact ⟨rfl, rfl⟩
    · exact ⟨rfl, rfl⟩
  refine ⟨(contents.bytes kind).getD i 0, h.readIn_bytes hText hi, ?_⟩
  rw [hNext.readIn_bytes hText (Nat.lt_of_lt_of_eq hi hKept.1.symm), hKept.2]

theorem readIn_setScreen_blank {contents : Contents} (h : Assembled geometry contents machine.work)
    {size : PixelSize} (hSize : size.InRange) (hNew : size ≠ machine.work.console.size)
    (hOk : (machine.setScreen size).fault = none) {kind : RegionKind}
    (hKind : kind = .text ∨ kind = .graph ∨ kind = .buffer) {i : Nat}
    (hi : i < Geometry.sizeOf { geometry with screen := size } kind) :
    (machine.setScreen size).state.work.readIn kind i = .ok 0 := by
  obtain ⟨hConsole, hNext⟩ := assembled_setScreen h hSize hNew hOk
  have hPicture : (Array.replicate size.bitmapBytes (0 : UInt8)).getD i 0 = 0 := by
    rw [Array.getD_eq_getD_getElem?, Array.getElem?_replicate]
    split
    · rfl
    · rfl
  rcases hKind with rfl | rfl | rfl
  · have hCells : (machine.setScreen size).state.work.console.grid.cells =
        Array.replicate size.textCells 0 := by
      rw [hConsole]
      exact (Console.setScreen_of_ne hNew).2.2
    have hCell : i < (machine.setScreen size).state.work.console.grid.cells.size := by
      rw [hCells, Array.size_replicate]
      exact hi
    rw [hNext.readIn_text hCell]
    simp only [hCells, Array.getElem_replicate]
  · rw [hNext.readIn_bytes (by decide) hi]
    exact congrArg Except.ok hPicture
  · rw [hNext.readIn_bytes (by decide) hi]
    exact congrArg Except.ok hPicture

/-- After any calls of which those that set the screen succeed, memory and console fit the screen
set last and share the text page. A further change to another screen keeps the runtime memory, the
strings and the frame window, and blanks the rest. -/
theorem geometry_of_calls (hRange : geometry.InRange)
    (hCreate : create geometry Player.idle = .ok machine) {calls : List Call}
    (hCalls : ∀ call ∈ calls, call.InRange) (hFit : ScreensFit machine calls) :
    let now := (machine.after calls).work
    let screen := calls.foldl Call.screen geometry.screen
    let runtime := geometry.runtimeSize
    let picture := (screen.width * screen.height + 7) / 8
    let text := screen.width / 6 * (screen.height / 13)
    now.console.size = screen ∧
    now.space.regions.map (fun region => (region.kind, region.base.toNat, region.size)) =
      [(.runtime, 0, runtime), (.graph, runtime, picture), (.buffer, runtime + picture, picture),
        (.text, runtime + 2 * picture, text),
        (.string, runtime + 2 * picture + text, geometry.stringSize)] ∧
    (∃ region, now.space.region? .text = some region ∧
      region.backing = .page now.console.pages.view) ∧
    now.console.grid.cells.size = text ∧
    (∀ i (hi : i < now.console.grid.cells.size),
      now.readIn .text i = .ok now.console.grid.cells[i]) ∧
    ∀ size : PixelSize, size.InRange → size ≠ screen →
      ((machine.after calls).setScreen size).fault = none →
      let next := ((machine.after calls).setScreen size).state.work
      next.space.window? = now.space.window? ∧
      (∀ kind, kind = .runtime ∨ kind = .string → ∀ i < geometry.sizeOf kind,
        ∃ value, now.readIn kind i = .ok value ∧ next.readIn kind i = .ok value) ∧
      ∀ kind, kind = .text ∨ kind = .graph ∨ kind = .buffer →
        ∀ i < Geometry.sizeOf { geometry with screen := size } kind,
          next.readIn kind i = .ok 0 := by
  intro now screen runtime picture text
  obtain ⟨contents, _, h⟩ := (wellFormed_create hRange hCreate).after hCalls hFit
  refine ⟨h.screen_eq, ?_, ⟨_, h.region?_eq .text, congrArg Backing.page h.text_eq⟩, ?_,
    fun i hi => h.readIn_text hi, ?_⟩
  · rw [h.outlines_eq]
    rfl
  · rw [h.sound.size_eq, h.screen_eq]
    rfl
  · intro size hSize hNew hOk next
    have hOther : size ≠ (machine.after calls).work.console.size := by
      rw [h.screen_eq]
      exact hNew
    obtain ⟨_, hNext⟩ := assembled_setScreen h hSize hOther hOk
    refine ⟨hNext.window?_eq.trans h.window?_eq.symm, ?_, ?_⟩
    · intro kind hKind i hi
      apply readIn_setScreen h hSize hOther hOk hKind
      rcases hKind with rfl | rfl
      · exact hi
      · exact hi
    · exact fun kind hKind i hi => readIn_setScreen_blank h hSize hOther hOk hKind hi

/-- So little runtime memory that the words of the player reach into the picture behind it. -/
def narrowGeometry : Geometry := ⟨⟨12, 13⟩, 3, 1⟩

/-- A program is let go in its middle, after the screen has changed under it. -/
def interrupted : List Call :=
  [.load ⟨"ab", #[0x61, 0x62]⟩, .step, .setScreen ⟨6, 26⟩, .dispose]

theorem geometry_of_interrupted :
    ∃ machine, narrowGeometry.InRange ∧ create narrowGeometry Player.idle = .ok machine ∧
      (∀ call ∈ interrupted, call.InRange) ∧ ScreensFit machine interrupted ∧
      (machine.after interrupted).work.space.regions.map
          (fun region => (region.kind, region.base.toNat, region.size)) =
        [(.runtime, 0, 3), (.graph, 3, 20), (.buffer, 23, 20), (.text, 43, 2), (.string, 45, 1)] ∧
      ((machine.after interrupted).setScreen ⟨12, 13⟩).fault = none ∧
      ((machine.after interrupted).setScreen ⟨12, 13⟩).state.work.readIn .runtime 0 = .ok 1 := by
  have hRange : narrowGeometry.InRange := ⟨⟨by decide, by decide⟩, by decide, by decide⟩
  have hCalls : ∀ call ∈ interrupted, call.InRange := by
    simp only [interrupted, List.forall_mem_cons, Call.InRange, List.not_mem_nil, false_implies,
      implies_true, and_true, true_and]
    exact ⟨by decide, by decide⟩
  have hRun : ∃ machine, create narrowGeometry Player.idle = .ok machine ∧
      ScreensFit machine interrupted ∧
      ((machine.after interrupted).setScreen ⟨12, 13⟩).fault = none ∧
      ((machine.after interrupted).work.readIn .runtime 0).toOption = some 1 := by
    refine ⟨_, rfl, ⟨?_, ?_, ?_, ?_, trivial⟩, ?_, ?_⟩
    · exact fun _ h => nomatch h
    · exact fun _ h => nomatch h
    · intro _ _
      decide +kernel
    · exact fun _ h => nomatch h
    · decide +kernel
    · decide +kernel
  obtain ⟨machine, hCreate, hFit, hOk, hByte⟩ := hRun
  obtain ⟨_, hRegions, _, _, _, hResize⟩ := geometry_of_calls hRange hCreate hCalls hFit
  obtain ⟨_, hKept, _⟩ := hResize ⟨12, 13⟩ ⟨by decide, by decide⟩ (by decide) hOk
  obtain ⟨value, hBefore, hAfter⟩ := hKept .runtime (.inl rfl) 0 (by decide)
  rw [hBefore] at hByte
  cases hByte
  exact ⟨machine, hRange, hCreate, hCalls, hFit, hRegions, hOk, hAfter⟩

end Machine
end Handheld

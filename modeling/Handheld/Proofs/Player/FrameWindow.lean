import Handheld.Proofs.Player.Form

/-! # The frame window

The runtime region stays where memory begins, with the size it was given, and its window is opened
by the first load. The window has the size of the frame then, however small the region is.
-/
set_option autoImplicit false
namespace Handheld
namespace AddressSpace

/-- The runtime region stands in front of all others, with such a size and window. -/
structure Rooted (size : Nat) (window : Window) (space : AddressSpace) : Prop where
  laidOut : LaidOut space
  front : ∃ region, space.regions[0]? = some region ∧ region.kind = .runtime ∧
    region.size = size ∧ region.window = some window

namespace Rooted
variable {size : Nat} {window : Window} {space : AddressSpace}

theorem firsts_eq (h : Rooted size window space) : space.firsts .runtime = some 0 := by
  obtain ⟨region, hRegion, hKind, -⟩ := h.front
  rw [h.laidOut.indexed, List.findIdx?_eq_some_iff_getElem]
  obtain ⟨hLength, hGet⟩ := List.getElem?_eq_some_iff.mp hRegion
  refine ⟨hLength, ?_, nofun⟩
  rw [hGet, hKind]
  rfl

theorem region?_eq (h : Rooted size window space) :
    ∃ region, space.region? .runtime = some region ∧ region.base = 0 ∧ region.size = size ∧
      region.window = some window := by
  obtain ⟨region, hRegion, -, hSize, hWindow⟩ := h.front
  have hBase : region.base.toNat = 0 := h.laidOut.starts 0 region hRegion
  refine ⟨region, ?_, UInt32.toNat_inj.mp hBase, hSize, hWindow⟩
  rw [region?, h.firsts_eq]
  exact hRegion

theorem of_sameForm (h : Rooted size window space) {after : AddressSpace}
    (hSame : SameForm space after) : Rooted size window after := by
  refine ⟨h.laidOut.of_sameForm hSame, ?_⟩
  obtain ⟨region, hRegion, hKind, hSize, hWindow⟩ := h.front
  have hForms := congrArg (fun forms => forms[0]?) hSame.forms_eq
  simp only [List.getElem?_map, hRegion, Option.map_some] at hForms
  obtain ⟨other, hOther, hForm⟩ := Option.map_eq_some_iff.mp hForms
  simp only [form, Region.outline, Prod.mk.injEq] at hForm
  obtain ⟨⟨hSameKind, -, hSameSize⟩, hSameWindow⟩ := hForm
  exact ⟨other, hOther, hSameKind.trans hKind, hSameSize.trans hSize, hSameWindow.trans hWindow⟩

theorem modifyWindow (h : Rooted size window space) (change : Window → Window) :
    Rooted size (change window) (space.modifyWindow change) := by
  refine ⟨h.laidOut.modifyWindow change, ?_⟩
  obtain ⟨region, hRegion, hKind, hSize, hWindow⟩ := h.front
  rw [AddressSpace.modifyWindow, modifyRegion, h.firsts_eq]
  refine ⟨{ region with window := region.window.map change }, ?_, hKind, hSize, ?_⟩
  · simp only [List.getElem?_modify_eq, hRegion, Option.map_eq_map, Option.map_some]
  · rw [hWindow]
    rfl

theorem exchange (h : Rooted size window space) {region : Region} (hKind : region.kind ≠ .runtime)
    (hSize : region.size < sizeLimit) : Rooted size window (space.exchange region).state := by
  by_cases hOk : (space.exchange region).fault = none
  case neg =>
    rw [h.laidOut.exchange_of_fault hSize hOk]
    exact h
  case pos =>
    obtain ⟨i, laid, hFirst, hLaid, hDone⟩ := h.laidOut.exchange_of_ok hOk
    have hAfter := h.laidOut.of_exchange hSize
    obtain ⟨front, hFront, hRuntime, hFrontSize, hWindow⟩ := h.front
    have hApart : i ≠ 0 := by
      rintro rfl
      obtain ⟨old, hOld, hSame⟩ := h.laidOut.getElem?_firsts hFirst
      rw [hFront] at hOld
      cases hOld
      exact hKind (hSame.symm.trans hRuntime)
    have hUnplaced := congrArg (fun regions => regions[0]?) (map_unplaced_relayout hLaid)
    simp only [setRegion, List.getElem?_map, List.getElem?_set_ne hApart, hFront,
      Option.map_some] at hUnplaced
    obtain ⟨other, hOther, hMoved⟩ := Option.map_eq_some_iff.mp hUnplaced
    rw [hDone] at hAfter ⊢
    refine ⟨hAfter, other, hOther, ?_, ?_, ?_⟩
    · exact (congrArg Region.kind hMoved).trans hRuntime
    · exact (congrArg Region.size hMoved).trans hFrontSize
    · exact (congrArg Region.window hMoved).trans hWindow

theorem exchangeAll (h : Rooted size window space) {regions : List Region}
    (hKinds : ∀ region ∈ regions, region.kind ≠ .runtime)
    (hSizes : ∀ region ∈ regions, region.size < sizeLimit) :
    Rooted size window (space.exchangeAll regions).state := by
  induction regions generalizing space with
  | nil => exact h
  | cons region rest ih =>
    rw [List.forall_mem_cons] at hKinds hSizes
    exact Attempt.andThen_state (P := Rooted size window) (h.exchange hKinds.1 hSizes.1)
      fun _ hAfter => ih hAfter hKinds.2 hSizes.2

end Rooted
end AddressSpace

open AddressSpace

def Call.window (old : Window) : Call → Window
  | .load _ => Player.openFrame old
  | _ => old

namespace Machine
variable {geometry : Geometry} {machine : Machine Player} {size : Nat} {window : Window}

theorem rooted_create (hRange : geometry.InRange)
    (hCreate : create geometry Player.idle = .ok machine) :
    Rooted geometry.runtimeSize .closed machine.work.space := by
  have hAssembled := assembled_create hRange hCreate
  exact ⟨laidOut_create hRange hCreate, _, hAssembled.getElem?_regions .runtime, rfl,
    hAssembled.measures .runtime, rfl⟩

theorem rooted_setScreen (h : Rooted size window machine.work.space) {screen : PixelSize}
    (hScreen : screen.InRange) :
    Rooted size window (machine.setScreen screen).state.work.space := by
  by_cases hSame : screen = machine.work.console.size
  · rw [setScreen_same hSame]
    exact h
  · rw [setScreen_of_ne hSame, fitScreen_eq]
    have hText := congrArg PageView.size (Console.setScreen_of_ne hSame).2.1
    refine h.exchangeAll ?_ (hScreen.screenRegions_lt hText)
    simp [screenRegions, Region.ofPage, Region.ofSize]

theorem rooted_run (h : Rooted size window machine.work.space) {call : Call}
    (hCall : call.InRange) :
    Rooted size (call.window window) (call.run machine).state.work.space := by
  cases call with
  | load program =>
    have hPrepared := h.of_sameForm (sameForm_prepare machine)
    exact (hPrepared.modifyWindow _).of_sameForm (sameForm_takeOver _ program)
  | step => exact h.of_sameForm (sameForm_step machine)
  | dispose => exact h
  | setScreen screen => exact rooted_setScreen h hCall

theorem rooted_after (h : Rooted size window machine.work.space) {calls : List Call}
    (hCalls : ∀ call ∈ calls, call.InRange) :
    Rooted size (calls.foldl Call.window window) (machine.after calls).work.space := by
  induction calls generalizing machine window with
  | nil => exact h
  | cons call rest ih =>
    rw [List.forall_mem_cons] at hCalls
    exact ih (rooted_run h hCalls.1) hCalls.2

theorem foldl_window_opened (calls : List Call) :
    calls.foldl Call.window ⟨0, Player.frameSize⟩ = ⟨0, Player.frameSize⟩ := by
  induction calls with
  | nil => rfl
  | cons call rest ih =>
    cases call with
    | load | step | dispose | setScreen => exact ih

theorem foldl_window (calls : List Call) :
    ((∃ program, .load program ∈ calls) →
      calls.foldl Call.window .closed = ⟨0, Player.frameSize⟩) ∧
    ((¬ ∃ program, .load program ∈ calls) → calls.foldl Call.window .closed = .closed) := by
  induction calls with
  | nil => simp
  | cons call rest ih =>
    cases call with
    | load program =>
      constructor
      · exact fun _ => foldl_window_opened rest
      · exact fun hNone => absurd ⟨program, List.mem_cons_self⟩ hNone
    | step | dispose | setScreen =>
      simp only [List.mem_cons, reduceCtorEq, false_or]
      exact ih

theorem consistent_iff {stop : UInt32} :
    (Window.mk 0 stop).Consistent 0 size ↔ stop.toNat ≤ size := by
  simp [Window.Consistent]

/-- Whatever is called, the runtime region stays where it is, and its window is closed up to the
first load and as large as the frame from then on. So the window lies inside the region if and only
if no program was loaded or the region has room for the frame; in a smaller one the words of the
player begin inside and end behind it. -/
theorem window_of_calls (hRange : geometry.InRange)
    (hCreate : create geometry Player.idle = .ok machine) {calls : List Call}
    (hCalls : ∀ call ∈ calls, call.InRange) :
    let loaded := ∃ program, Call.load program ∈ calls
    ∃ region window, (machine.after calls).work.space.region? .runtime = some region ∧
      region.base = 0 ∧ region.size = geometry.runtimeSize ∧ region.window = some window ∧
      (loaded → window = ⟨0, 8⟩) ∧ (¬ loaded → window = .closed) ∧
      (window.Consistent region.base region.size ↔ (loaded → 8 ≤ geometry.runtimeSize)) ∧
      ∀ addr, region.Contains addr ↔ addr.toNat < geometry.runtimeSize := by
  intro loaded
  have hRooted := rooted_after (rooted_create hRange hCreate) hCalls
  obtain ⟨region, hRegion, hBase, hSize, hWindow⟩ := hRooted.region?_eq
  obtain ⟨hOpened, hClosed⟩ := foldl_window calls
  refine ⟨region, _, hRegion, hBase, hSize, hWindow, hOpened, hClosed, ?_, ?_⟩
  · rw [hBase, hSize]
    by_cases hLoaded : loaded
    · rw [hOpened hLoaded, consistent_iff, forall_prop_of_true hLoaded]
      rfl
    · rw [hClosed hLoaded, Window.closed, consistent_iff]
      simp [hLoaded]
  · intro addr
    simp [Region.Contains, Region.limit, hBase, hSize]

/-- The runtime memory has three bytes, and a program is played in it. -/
theorem window_of_narrowRuntime :
    let calls : List Call := [.load ⟨"a", #[0x61]⟩, .step]
    ∃ machine region, create narrowGeometry Player.idle = .ok machine ∧
      (machine.after calls).work.space.region? .runtime = some region ∧
      region.window = some ⟨0, 8⟩ ∧ ¬ (Window.mk 0 8).Consistent region.base region.size := by
  intro calls
  have hRange : narrowGeometry.InRange := ⟨⟨by decide, by decide⟩, by decide, by decide⟩
  have hLoaded : ∃ program, Call.load program ∈ calls := ⟨_, List.mem_cons_self⟩
  have hCreate : ∃ machine, create narrowGeometry Player.idle = .ok machine := ⟨_, rfl⟩
  obtain ⟨machine, hCreate⟩ := hCreate
  obtain ⟨region, window, hRegion, -, -, hWindow, hOpened, -, hConsistent, -⟩ :=
    @window_of_calls _ _ hRange hCreate calls (by simp [calls, Call.InRange])
  obtain rfl := hOpened hLoaded
  refine ⟨machine, region, hCreate, hRegion, hWindow, fun hInside => ?_⟩
  exact absurd (hConsistent.mp hInside hLoaded) (by decide)

end Machine
end Handheld

import Handheld.Proofs.Ring.Queue
import Handheld.Proofs.Runner.Exit
import Handheld.Proofs.Runner.History
import Mathlib.Data.List.DropRight

/-! # The stream of events

Over a whole run the events that tell a change between running and paused come by turns, and the
exit of the worker is told once and last. A reading gives the host the newest of the events since
the reading before, as many as the ring can hold.
-/
set_option autoImplicit false
namespace Handheld

theorem rtake_rtake_succ {α : Type} (items : List α) (bound : Nat) :
    (items.rtake (bound + 1)).rtake bound = items.rtake bound := by
  rw [List.rtake_eq_reverse_take_reverse, List.rtake_eq_reverse_take_reverse, List.reverse_reverse,
    List.take_take, Nat.min_eq_left (Nat.le_succ bound), ← List.rtake_eq_reverse_take_reverse]

namespace Ring
variable {α : Type}

theorem toList_push_eq_rtake (ring : Ring α) (item : α) :
    (ring.push item).toList = (ring.toList ++ [item]).rtake ring.capacity := by
  obtain ⟨bound, hCapacity⟩ : ∃ bound, ring.capacity = bound + 1 :=
    Nat.exists_eq_succ_of_ne_zero (Nat.ne_of_gt ring.capacity_pos)
  have hLength : ring.toList.length ≤ ring.capacity := by
    rw [length_toList]
    exact ring.count_le
  rw [toList_push, hCapacity, List.rtake_concat_succ, List.rtake]
  split
  · rename_i hFull
    rw [hFull, Nat.add_sub_cancel_left, List.drop_one]
  · rename_i hRoom
    rw [Nat.sub_eq_zero_of_le (by omega), List.drop_zero]

theorem capacity_foldl_push (items : List α) (ring : Ring α) :
    (items.foldl push ring).capacity = ring.capacity := by
  induction items generalizing ring with
  | nil => rfl
  | cons item rest ih => exact (ih (ring.push item)).trans (ring.capacity_push item)

theorem toList_foldl_push {ring : Ring α} (hNone : ring.toList = []) (items : List α) :
    (items.foldl push ring).toList = items.rtake ring.capacity := by
  obtain ⟨bound, hCapacity⟩ : ∃ bound, ring.capacity = bound + 1 :=
    Nat.exists_eq_succ_of_ne_zero (Nat.ne_of_gt ring.capacity_pos)
  induction items using List.reverseRecOn with
  | nil => rw [List.foldl_nil, hNone, List.rtake_nil]
  | append_singleton items item ih =>
    rw [List.foldl_append, List.foldl_cons, List.foldl_nil, toList_push_eq_rtake,
      capacity_foldl_push, ih, hCapacity, List.rtake_concat_succ, List.rtake_concat_succ,
      rtake_rtake_succ]

end Ring

namespace Runner
variable {ι σ : Type} {rig : Rig ι σ} {runner next : Runner ι σ}

theorem Move.capacity {action : Action} (move : Move rig runner action next) :
    next.control.events.capacity = runner.control.events.capacity := by
  by_cases hDrain : action = .drain
  · subst hDrain
    cases move with
    | drain => exact runner.control.events.drain_eq.2.2
  · rw [move.events hDrain]
    exact Ring.capacity_foldl_push _ _

theorem capacity_of_run {machine : Machine ι} {screen : σ} {slots : Nat} {actions : List Action}
    (hRun : actAll rig actions (create machine screen slots) = some runner) :
    runner.control.events.capacity = max slots 1 := by
  have hStart : (create machine screen slots).control.events.capacity = max slots 1 :=
    Array.size_replicate
  refine actAll_induction (motive := fun _ middle =>
    middle.control.events.capacity = max slots 1) hStart ?_ hRun
  intro _ _ _ _ h move
  exact move.capacity.trans h

theorem toList_of_reading {machine : Machine ι} {screen : σ} {slots : Nat} {actions : List Action}
    (hReading : actions = [] ∨ ∃ before, actions = before ++ [.drain])
    (hRun : actAll rig actions (create machine screen slots) = some runner) :
    runner.control.events.toList = [] := by
  obtain rfl | ⟨before, rfl⟩ := hReading
  · cases hRun
    exact Ring.toList_ofSize slots
  · rw [actAll_append, Option.bind_eq_some_iff] at hRun
    obtain ⟨middle, -, hDrain⟩ := hRun
    cases hDrain
    exact middle.control.events.drain_eq.2.1

theorem reading_of_run {machine : Machine ι} {screen : σ} {slots : Nat}
    {earlier between : List Action} {middle later : Runner ι σ}
    (hReading : earlier = [] ∨ ∃ before, earlier = before ++ [.drain])
    (hKeeps : .drain ∉ between)
    (hEarlier : actAll rig earlier (create machine screen slots) = some middle)
    (hBetween : actAll rig between middle = some later) :
    later.control.events.drain.1 = (recorded rig between middle).rtake (max slots 1) := by
  rw [later.control.events.drain_eq.1, events_of_run hKeeps hBetween, ← capacity_of_run hEarlier]
  exact Ring.toList_foldl_push (toList_of_reading hReading hEarlier) _

end Runner

def byTurns (count : Nat) : List Event :=
  (List.range count).map fun place => if place % 2 = 0 then .running else .paused

theorem byTurns_succ (count : Nat) :
    byTurns (count + 1) = byTurns count ++ [if count % 2 = 0 then .running else .paused] := by
  rw [byTurns, List.range_succ, List.map_append, List.map_singleton]
  rfl

/-- The events of running and pausing came by turns, and the last of them tells the state. -/
structure InTurns (events : List Event) (state : RunState) : Prop where
  by_turns : events.filter Event.tellsState = byTurns (events.filter Event.tellsState).length
  state_eq : state ≠ .exited →
    state = if (events.filter Event.tellsState).length % 2 = 0 then .paused else .running

namespace InTurns
variable {events : List Event} {state : RunState}

theorem exited (h : InTurns events state) : InTurns events .exited :=
  ⟨h.by_turns, fun hOpen => absurd rfl hOpen⟩

theorem silent (h : InTurns events state) {event : Event} (hSilent : event.tellsState = false) :
    InTurns (events ++ [event]) state := by
  have hSame : (events ++ [event]).filter Event.tellsState = events.filter Event.tellsState := by
    rw [List.filter_append, List.filter_cons_of_neg (Bool.not_eq_true _ ▸ hSilent),
      List.filter_nil, List.append_nil]
  constructor
  · rw [hSame]
    exact h.by_turns
  · rw [hSame]
    exact h.state_eq

theorem other (h : InTurns events state) {entered : RunState} (hOpen : state ≠ .exited)
    (hPlain : entered ≠ .exited) (hOther : state ≠ entered) :
    InTurns (events ++ [Control.eventOf entered]) entered := by
  have hTells : (Control.eventOf entered).tellsState = true := by
    cases entered with
    | paused | running => rfl
    | exited => exact absurd rfl hPlain
  have hMore : (events ++ [Control.eventOf entered]).filter Event.tellsState =
      events.filter Event.tellsState ++ [Control.eventOf entered] := by
    rw [List.filter_append, List.filter_cons_of_pos hTells, List.filter_nil]
  have hState := h.state_eq hOpen
  have hTurn : entered =
      if (events.filter Event.tellsState).length % 2 = 0 then .running else .paused := by
    by_cases hEven : (events.filter Event.tellsState).length % 2 = 0
    · rw [if_pos hEven] at hState ⊢
      cases entered with
      | running => rfl
      | paused => exact absurd hState hOther
      | exited => exact absurd rfl hPlain
    · rw [if_neg hEven] at hState ⊢
      cases entered with
      | running => exact absurd hState hOther
      | paused => rfl
      | exited => exact absurd rfl hPlain
  constructor
  · rw [hMore, List.length_append, List.length_singleton, byTurns_succ, ← h.by_turns, hTurn]
    split
    · rfl
    · rfl
  · intro _
    rw [hMore, List.length_append, List.length_singleton, hTurn]
    split
    · rw [if_neg (by omega)]
    · rw [if_pos (by omega)]

theorem enter {control : Control} (h : InTurns events control.state) {entered : RunState}
    (hPlain : entered ≠ .exited) :
    InTurns (events ++ control.entered entered) (control.enter entered).state := by
  rw [Control.entered, Control.enter]
  split
  · rename_i hEnters
    rw [Control.enters, Bool.and_eq_true, bne_iff_ne, bne_iff_ne] at hEnters
    exact h.other hEnters.1 hPlain hEnters.2
  · rw [List.append_nil]
    exact h

theorem accept {control : Control} (h : InTurns events control.state) (request : Request) :
    InTurns (events ++ control.answered request) (control.accept request).1.state := by
  cases request with
  | launch program =>
    rw [Control.accept]
    split
    · rename_i hExited
      rw [Control.answered, Control.entered, Control.enters, hExited]
      rw [hExited] at h
      exact (List.append_nil events).symm ▸ h
    · exact h.enter (by decide)
  | pause =>
    have hBefore : InTurns events ({ control with resumeAfterLoad := false } : Control).state := h
    exact hBefore.enter (by decide)
  | resume =>
    have hBefore : InTurns events ({ control with resumeAfterLoad := true } : Control).state := h
    exact hBefore.enter (by decide)
  | resize size =>
    rw [Control.accept, Control.answered, List.append_nil]
    split
    · exact h
    · exact h

end InTurns

namespace Runner
variable {ι σ : Type} {rig : Rig ι σ} {runner next : Runner ι σ} {events : List Event}

theorem Turn.inTurns (turn : Turn rig runner next) (h : InTurns events runner.control.state) :
    InTurns (events ++ announced runner.control runner.stage) next.control.state := by
  cases turn with
  | start hStage =>
    rw [hStage, announced, Control.startLoaded]
    split
    · exact h.enter (by decide)
    · rw [List.append_nil]
      exact h
  | finish hStage =>
    rw [hStage]
    exact (h.silent rfl).exited
  | report hStage | reject hStage | fault hStage =>
    rw [hStage]
    exact h.silent rfl
  | leave hStage | take hStage | choose hStage | wait hStage | begin hStage | quit hStage
  | idle hStage | look hStage | rest hStage | stepped hStage | stumbled hStage | applied hStage
  | prepare hStage | resized hStage | misfit hStage | loaded hStage | refused hStage
  | dispose hStage =>
    rw [hStage]
    exact (List.append_nil events).symm ▸ h

theorem Move.inTurns {action : Action} (move : Move rig runner action next)
    (h : InTurns events runner.control.state) :
    InTurns (events ++ recorded rig [action] runner) next.control.state := by
  rw [recorded, along_singleton]
  cases move with
  | request request => exact h.accept request
  | work turn => exact turn.inTurns h
  | mourn hStage =>
    rw [hStage]
    exact (h.silent rfl).exited
  | collect hStage =>
    rw [hStage]
    exact (List.append_nil events).symm ▸ h
  | cancel | signal | wake | crash | drain => exact (List.append_nil events).symm ▸ h

/-- If the exit of the worker is told, it is told once and last, and the worker is gone. -/
def ToldLast (events : List Event) (runner : Runner ι σ) : Prop :=
  .exited ∉ events ∨
    runner.stage = .gone false ∧ runner.control.state = .exited ∧
      ∃ before, .exited ∉ before ∧ events = before ++ [.exited]

theorem answered_of_exited {control : Control} (h : control.state = .exited) (request : Request) :
    control.answered request = [] := by
  have hNone (state : RunState) : control.entered state = [] := by
    rw [Control.entered, Control.enters, h]
    rfl
  cases request with
  | launch | pause | resume => exact hNone _
  | resize => rfl

theorem of_exited_mem_announced {control : Control} {stage : Stage}
    (h : .exited ∈ announced control stage) : stage = .finishing := by
  cases stage with
  | finishing => rfl
  | starting =>
    rw [announced] at h
    split at h
    · exact absurd h (not_mem_answered rfl .resume control)
    · cases h
  | reporting | rejecting | faulting => cases List.mem_singleton.mp h
  | _ => cases h

namespace ToldLast

theorem not_mem (h : ToldLast events runner) (hHere : runner.stage ≠ .gone false) :
    .exited ∉ events := h.resolve_right fun hTold => hHere hTold.1

theorem turn (h : ToldLast events runner) (turn : Turn rig runner next) :
    ToldLast (events ++ announced runner.control runner.stage) next := by
  have hNot : .exited ∉ events := h.not_mem (turn.stage_ne_gone false)
  cases turn with
  | finish hStage =>
    rw [hStage]
    exact .inr ⟨rfl, rfl, events, hNot, rfl⟩
  | leave hStage | take hStage | choose hStage | wait hStage | begin hStage | quit hStage
  | idle hStage | look hStage | rest hStage | stepped hStage | stumbled hStage | applied hStage
  | prepare hStage | resized hStage | misfit hStage | loaded hStage | refused hStage
  | report hStage | start hStage | reject hStage | fault hStage | dispose hStage =>
    refine .inl fun hMember => ?_
    obtain hOld | hNew := List.mem_append.mp hMember
    · exact hNot hOld
    · cases hStage.symm.trans (of_exited_mem_announced hNew)

theorem request (h : ToldLast events runner) (request : Request) (owed : Nat) :
    ToldLast (events ++ runner.control.answered request)
      { runner with control := (runner.control.accept request).1, owed } := by
  obtain hNot | ⟨hGone, hExited, hEvents⟩ := h
  · refine .inl fun hMember => ?_
    obtain hOld | hNew := List.mem_append.mp hMember
    · exact hNot hOld
    · exact not_mem_answered rfl request runner.control hNew
  · rw [answered_of_exited hExited, List.append_nil]
    exact .inr ⟨hGone, (runner.control.state_accept request).trans (if_pos hExited), hEvents⟩

theorem move {action : Action} (h : ToldLast events runner) (move : Move rig runner action next) :
    ToldLast (events ++ recorded rig [action] runner) next := by
  rw [recorded, along_singleton]
  cases move with
  | request request => exact h.request request _
  | work turn => exact h.turn turn
  | signal | wake =>
    rw [List.append_nil]
    obtain hNot | ⟨hGone, hExited, hEvents⟩ := h
    · exact .inl hNot
    · exact .inr ⟨by rw [hGone]; rfl, hExited, hEvents⟩
  | crash hCall =>
    rw [List.append_nil]
    refine .inl (h.not_mem fun hGone => ?_)
    rw [hGone] at hCall
    cases hCall
  | cancel | drain =>
    rw [List.append_nil]
    exact h
  | collect hStage =>
    change ToldLast _ runner
    rw [hStage, List.append_nil]
    exact h
  | mourn hStage =>
    have hNot : .exited ∉ events := h.not_mem fun hGone => by cases hStage.symm.trans hGone
    rw [hStage]
    refine .inl fun hMember => ?_
    obtain hOld | hNew := List.mem_append.mp hMember
    · exact hNot hOld
    · cases List.mem_singleton.mp hNew

end ToldLast

section Stream
variable {machine : Machine ι} {screen : σ} {slots : Nat} {actions : List Action}

theorem inTurns_of_run (hRun : actAll rig actions (create machine screen slots) = some runner) :
    InTurns (recorded rig actions (create machine screen slots)) runner.control.state := by
  have hStart : InTurns [] (create machine screen slots).control.state := ⟨rfl, fun _ => rfl⟩
  refine actAll_induction_along (motive := fun soFar middle =>
    InTurns (recorded rig soFar (create machine screen slots)) middle.control.state) hStart ?_ hRun
  intro soFar middle action after hSoFar h move
  rw [recorded, along_append _ _ hSoFar]
  exact move.inTurns h

theorem toldLast_of_run (hRun : actAll rig actions (create machine screen slots) = some runner) :
    ToldLast (recorded rig actions (create machine screen slots)) runner := by
  have hStart : ToldLast [] (create machine screen slots) := .inl List.not_mem_nil
  refine actAll_induction_along (motive := fun soFar middle =>
    ToldLast (recorded rig soFar (create machine screen slots)) middle) hStart ?_ hRun
  intro soFar middle action after hSoFar h move
  rw [recorded, along_append _ _ hSoFar]
  exact h.move move

end Stream

/-- Of all events in a run those of running and pausing come by turns, running first, and the exit
comes once and last, if at all. Each reading gives, in order, the newest of the events since the
reading before, as many as there are slots. -/
theorem stream_of_run (rig : Rig ι σ) (machine : Machine ι) (screen : σ) (slots : Nat)
    (actions : List Action) (final : Runner ι σ)
    (hRun : actAll rig actions (create machine screen slots) = some final) :
    let start := create machine screen slots
    let events := recorded rig actions start
    let states := events.filter Event.tellsState
    states = byTurns states.length ∧
    (.exited ∉ events ∨ ∃ before, .exited ∉ before ∧ events = before ++ [.exited]) ∧
    ∀ earlier between rest, actions = earlier ++ between ++ .drain :: rest →
      (earlier = [] ∨ ∃ before, earlier = before ++ [.drain]) → .drain ∉ between →
      ∃ middle later, actAll rig earlier start = some middle ∧
        actAll rig between middle = some later ∧
        later.control.events.drain.1 = (recorded rig between middle).rtake (max slots 1) := by
  intro start events states
  refine ⟨(inTurns_of_run hRun).by_turns, ?_, ?_⟩
  · exact (toldLast_of_run hRun).imp_right fun hTold => hTold.2.2
  · rintro earlier between rest rfl hReading hKeeps
    rw [actAll_append, actAll_append, Option.bind_assoc] at hRun
    obtain ⟨middle, hEarlier, hRest⟩ := Option.bind_eq_some_iff.mp hRun
    obtain ⟨later, hBetween, -⟩ := Option.bind_eq_some_iff.mp hRest
    exact ⟨middle, later, hEarlier, hBetween,
      reading_of_run hReading hKeeps hEarlier hBetween⟩

/-- Three events between two readings are one too many for two slots. -/
def fickle : List Action :=
  [.request .resume, .request .pause, .request .resume] ++
    .drain :: [.request .pause, .cancel, .work, .work, .work, .drain]

theorem stream_of_fickle :
    ∃ machine final later,
      Machine.create ⟨⟨16, 32⟩, 8, 1⟩ (Counted.start Player.idle) = .ok machine ∧
      let start := create machine (Lcd.ofSize "lcd" ⟨16, 32⟩) 2
      actAll balkyRig fickle start = some final ∧
      (recorded balkyRig fickle start).filter Event.tellsState = byTurns 4 ∧
      (∃ before, .exited ∉ before ∧ recorded balkyRig fickle start = before ++ [.exited]) ∧
      actAll balkyRig [.request .resume, .request .pause, .request .resume] start = some later ∧
      later.control.events.drain.1 = [.paused, .running] := by
  have hRun : ∃ machine,
      Machine.create ⟨⟨16, 32⟩, 8, 1⟩ (Counted.start Player.idle) = .ok machine ∧
      (actAll balkyRig fickle (create machine (Lcd.ofSize "lcd" ⟨16, 32⟩) 2)).isSome = true ∧
      recorded balkyRig fickle (create machine (Lcd.ofSize "lcd" ⟨16, 32⟩) 2) =
        [.running, .paused, .running, .paused, .exited] := by
    refine ⟨_, rfl, ?_, ?_⟩
    · decide +kernel
    · decide +kernel
  obtain ⟨machine, hCreate, hSome, hEvents⟩ := hRun
  obtain ⟨final, hFinal⟩ := Option.isSome_iff_exists.mp hSome
  obtain ⟨hTurns, hTold, hReadings⟩ :=
    stream_of_run balkyRig machine (Lcd.ofSize "lcd" ⟨16, 32⟩) 2 fickle final hFinal
  obtain ⟨middle, later, hEarlier, hBetween, hRead⟩ :=
    hReadings [] [.request .resume, .request .pause, .request .resume] _ rfl (.inl rfl) (by simp)
  cases hEarlier
  refine ⟨machine, final, later, hCreate, hFinal, ?_, ?_, hBetween, hRead⟩
  · rw [hEvents] at hTurns ⊢
    exact hTurns
  · refine hTold.resolve_left fun hNot => ?_
    rw [hEvents] at hNot
    simp at hNot

end Runner
end Handheld

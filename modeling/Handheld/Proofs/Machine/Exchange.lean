import Handheld.Proofs.Machine.Assembly

/-! # Changes to a laid-out space

Writing bytes never touches the layout. Exchanging regions one after another stops at the first that
does not fit; those before it have found their places, and everything else is held as before.
-/
set_option autoImplicit false
namespace Handheld

theorem Attempt.andThen_state {ε σ : Type} {P : σ → Prop} {first : Attempt ε σ}
    {next : σ → Attempt ε σ} (hFirst : P first.state)
    (hNext : ∀ state, P state → P (next state).state) : P (first.andThen next).state := by
  rw [andThen]
  split
  · exact hNext _ hFirst
  · exact hFirst

namespace AddressSpace
variable {space : AddressSpace} {region : Region}

def form (region : Region) : (RegionKind × UInt32 × Nat) × Option Window :=
  (region.outline, region.window)

structure SameForm (space after : AddressSpace) : Prop where
  forms_eq : after.regions.map form = space.regions.map form
  firsts_eq : after.firsts = space.firsts

theorem SameForm.refl (space : AddressSpace) : SameForm space space := ⟨rfl, rfl⟩

theorem SameForm.trans {a b c : AddressSpace} (hab : SameForm a b) (hbc : SameForm b c) :
    SameForm a c := ⟨hbc.forms_eq.trans hab.forms_eq, hbc.firsts_eq.trans hab.firsts_eq⟩

theorem SameForm.outlines_eq {after : AddressSpace} (h : SameForm space after) :
    after.regions.map Region.outline = space.regions.map Region.outline := by
  have hForms := congrArg (List.map Prod.fst) h.forms_eq
  rwa [List.map_map, List.map_map] at hForms

theorem SameForm.window?_eq {after : AddressSpace} (h : SameForm space after) :
    after.window? = space.window? := by
  have hWindows (list : List Region) (i : Nat) :
      (list[i]?.bind fun region => region.window) = (list.map form)[i]?.bind Prod.snd := by
    rw [List.getElem?_map]
    cases list[i]? with
    | none => rfl
    | some region => rfl
  rw [window?, window?, region?, region?, h.firsts_eq]
  cases space.firsts .runtime with
  | none => rfl
  | some i =>
    rw [Option.bind_some, Option.bind_some, hWindows, hWindows, h.forms_eq]

theorem LaidOut.of_sameForm {after : AddressSpace} (h : LaidOut space)
    (hSame : SameForm space after) : LaidOut after :=
  h.of_outline hSame.outlines_eq hSame.firsts_eq

section Bytes
variable (store : Store)

theorem sameForm_setAt (i offset : Nat) (value : UInt8) :
    SameForm store.space (store.setAt i offset value).space := by
  refine ⟨map_modify_of_eq (fun region => ?_) store.space.regions i, rfl⟩
  rw [form, Region.outline_set]
  rfl

theorem sameForm_writeByte (addr : UInt32) (value : UInt8) :
    SameForm store.space (store.writeByte addr value).state.space := by
  obtain ⟨e, hRefused⟩ | ⟨i, offset, hWrite⟩ := store.writeByte_cases addr value
  · rw [hRefused]
    exact .refl store.space
  · rw [hWrite]
    exact sameForm_setAt store i offset value

theorem sameForm_writeFrom (addr : UInt32) (distance : Nat) (values : List UInt8) :
    SameForm store.space (Store.writeFrom addr distance values store).state.space := by
  induction values generalizing store distance with
  | nil => exact .refl store.space
  | cons value rest ih =>
    rw [Store.writeFrom]
    split
    · exact .refl store.space
    · exact Attempt.andThen_state (P := fun after : Store => SameForm store.space after.space)
        (sameForm_writeByte store _ value) fun after hAfter => hAfter.trans (ih after _)

theorem sameForm_clearAll : SameForm store.space store.clearAll.space := by
  refine ⟨?_, rfl⟩
  rw [Store.clearAll, List.map_map]
  refine List.map_congr_left fun region _ => ?_
  rw [Function.comp_apply, form, Region.outline_zeroed]
  rfl

end Bytes

theorem outlines_modifyWindow (space : AddressSpace) (change : Window → Window) :
    (space.modifyWindow change).regions.map Region.outline = space.regions.map Region.outline ∧
      (space.modifyWindow change).firsts = space.firsts := by
  rw [AddressSpace.modifyWindow, modifyRegion]
  split
  · exact ⟨rfl, rfl⟩
  · rename_i i _
    have hOutline (region : Region) :
        { region with window := region.window.map change }.outline = region.outline := rfl
    exact ⟨map_modify_of_eq hOutline space.regions i, rfl⟩

theorem LaidOut.modifyWindow (h : LaidOut space) (change : Window → Window) :
    LaidOut (space.modifyWindow change) := by
  obtain ⟨hOutlines, hFirsts⟩ := outlines_modifyWindow space change
  exact h.of_outline hOutlines hFirsts

def held (space : AddressSpace) (kind : RegionKind) : Option Region :=
  (space.region? kind).map Region.unplaced

theorem held_eq (space : AddressSpace) (kind : RegionKind) :
    space.held kind =
      (space.firsts kind).bind fun i => (space.regions.map Region.unplaced)[i]? := by
  rw [held, region?, Option.map_bind]
  congr 1
  funext i
  rw [Function.comp_apply, List.getElem?_map]

theorem exchange_eq (space : AddressSpace) (region : Region) :
    space.exchange region =
      ⟨(space.replace region).1,
        match (space.replace region).2 with
        | .ok _ => none
        | .error e => some e⟩ := by
  rw [exchange]
  rcases space.replace region with ⟨after, old | e⟩
  · rfl
  · rfl

theorem LaidOut.exchange_of_ok (h : LaidOut space) (hOk : (space.exchange region).fault = none) :
    ∃ i laid, space.firsts region.kind = some i ∧
      (space.setRegion i region).relayout = .ok laid ∧ space.exchange region = .done laid := by
  rw [exchange_eq] at hOk ⊢
  obtain ⟨-, hReplace⟩ | ⟨i, old, hFirst, -, -, ⟨laid, hLaid, hReplace⟩ | ⟨e, -, hReplace⟩⟩ :=
    h.replace_cases region
  · rw [hReplace] at hOk
    cases hOk
  · rw [hReplace]
    exact ⟨i, laid, hFirst, hLaid, rfl⟩
  · rw [hReplace] at hOk
    cases hOk

theorem LaidOut.exchange_of_fault (h : LaidOut space) (hSize : region.size < sizeLimit)
    (hFault : (space.exchange region).fault ≠ none) : (space.exchange region).state = space := by
  rw [exchange_eq] at hFault ⊢
  cases hResult : (space.replace region).2 with
  | ok old =>
    rw [hResult] at hFault
    exact absurd rfl hFault
  | error e => exact h.replace_of_error hResult (h.goesOn_replace hSize hResult)

theorem LaidOut.of_exchange (h : LaidOut space) (hSize : region.size < sizeLimit) :
    LaidOut (space.exchange region).state := by
  rw [exchange_eq]
  exact h.of_replace fun _ => h.goesOn_replace hSize

theorem LaidOut.held_exchange (h : LaidOut space) (hOk : (space.exchange region).fault = none)
    (kind : RegionKind) :
    (space.exchange region).state.held kind =
      if kind = region.kind then some region.unplaced else space.held kind := by
  obtain ⟨i, laid, hFirst, hLaid, hDone⟩ := h.exchange_of_ok hOk
  obtain ⟨old, hOld, hKind⟩ := h.getElem?_firsts hFirst
  have hLength : i < (space.regions.map Region.unplaced).length := by
    rw [List.length_map]
    exact (List.getElem?_eq_some_iff.mp hOld).1
  have hRegions : laid.regions.map Region.unplaced =
      (space.regions.map Region.unplaced).set i region.unplaced :=
    (map_unplaced_relayout hLaid).trans List.map_set
  rw [hDone, held_eq, held_eq, show (Attempt.done laid).state = laid from rfl, hRegions,
    firsts_relayout hLaid]
  change (space.firsts kind).bind _ = _
  split
  · rename_i hSame
    rw [hSame, hFirst, Option.bind_some, List.getElem?_set_self hLength]
  · rename_i hOther
    cases hPlace : space.firsts kind with
    | none => rfl
    | some j =>
      have hApart : i ≠ j := by
        rintro rfl
        obtain ⟨other, hOtherRegion, hOtherKind⟩ := h.getElem?_firsts hPlace
        rw [hOld, Option.some_inj] at hOtherRegion
        exact hOther (by rw [← hOtherKind, ← hOtherRegion, hKind])
      rw [Option.bind_some, Option.bind_some, List.getElem?_set_ne hApart]

/-- Exchanges one region after another, up to the first that does not fit. -/
def exchangeAll : List Region → AddressSpace → Attempt MemoryError AddressSpace
  | [], space => .done space
  | region :: rest, space => (space.exchange region).andThen (exchangeAll rest)

def screenRegions (size : PixelSize) (text : PageView) : List Region :=
  [.ofPage text, .ofSize .graph size.bitmapBytes, .ofSize .buffer size.bitmapBytes]

theorem fitScreen_eq (space : AddressSpace) (size : PixelSize) (text : PageView) :
    space.fitScreen size text = space.exchangeAll (screenRegions size text) := by
  have hLast (attempt : Attempt MemoryError AddressSpace) : attempt.andThen .done = attempt := by
    obtain ⟨state, fault⟩ := attempt
    cases fault with
    | none => rfl
    | some e => rfl
  simp only [fitScreen, screenRegions, exchangeAll, hLast]

structure Exchanged (changed : List Region) (space after : AddressSpace) : Prop where
  held_changed : ∀ region ∈ changed, after.held region.kind = some region.unplaced
  held_other : ∀ kind, kind ∉ changed.map Region.kind → after.held kind = space.held kind

theorem exchanged_nil (space : AddressSpace) : Exchanged [] space space :=
  ⟨nofun, fun _ _ => rfl⟩

theorem Exchanged.cons {changed : List Region} {after : AddressSpace} (h : LaidOut space)
    (hOk : (space.exchange region).fault = none)
    (hRest : Exchanged changed (space.exchange region).state after)
    (hFresh : region.kind ∉ changed.map Region.kind) :
    Exchanged (region :: changed) space after := by
  have hHeld := h.held_exchange hOk
  constructor
  · intro other hOther
    cases hOther with
    | head => rw [hRest.held_other region.kind hFresh, hHeld, if_pos rfl]
    | tail _ hMember => exact hRest.held_changed other hMember
  · intro kind hNot
    rw [List.map_cons, List.mem_cons, not_or] at hNot
    rw [hRest.held_other kind hNot.2, hHeld, if_neg hNot.1]

theorem LaidOut.exchangeAll_cases (h : LaidOut space) {regions : List Region}
    (hSizes : ∀ region ∈ regions, region.size < sizeLimit)
    (hKinds : (regions.map Region.kind).Nodup) :
    let attempt := space.exchangeAll regions
    LaidOut attempt.state ∧ ∃ changed kept, regions = changed ++ kept ∧
      (attempt.fault = none ↔ kept = []) ∧ (changed = [] → attempt.state = space) ∧
      Exchanged changed space attempt.state := by
  induction regions generalizing space with
  | nil => exact ⟨h, [], [], rfl, ⟨fun _ => rfl, fun _ => rfl⟩, fun _ => rfl, exchanged_nil space⟩
  | cons region rest ih =>
    rw [List.forall_mem_cons] at hSizes
    obtain ⟨hFresh, hKinds⟩ := List.nodup_cons.mp hKinds
    intro attempt
    cases hFault : (space.exchange region).fault with
    | some e =>
      have hStopped : attempt = space.exchange region := by
        simp only [attempt, exchangeAll, Attempt.andThen, hFault]
      have hSame : attempt.state = space := by
        rw [hStopped]
        exact h.exchange_of_fault hSizes.1 (by simp [hFault])
      rw [hSame]
      have hLeft : region :: rest ≠ [] := List.cons_ne_nil region rest
      refine ⟨h, [], region :: rest, rfl, ?_, fun _ => rfl, exchanged_nil space⟩
      rw [hStopped, hFault]
      exact iff_of_false (Option.some_ne_none e) hLeft
    | none =>
      have hGoes : attempt = (space.exchange region).state.exchangeAll rest := by
        simp only [attempt, exchangeAll, Attempt.andThen, hFault]
      obtain ⟨hLaid, changed, kept, hSplit, hEnd, _, hRest⟩ :=
        ih (h.of_exchange hSizes.1) hSizes.2 hKinds
      have hSome : region :: changed ≠ [] := List.cons_ne_nil region changed
      rw [hGoes]
      refine ⟨hLaid, region :: changed, kept, ?_, hEnd, fun hNone => absurd hNone hSome,
        hRest.cons h hFault ?_⟩
      · rw [hSplit, List.cons_append]
      · intro hMember
        apply hFresh
        rw [hSplit, List.map_append]
        exact List.mem_append_left _ hMember

end AddressSpace

open AddressSpace

theorem PixelSize.InRange.screenRegions_lt {size : PixelSize} (hSize : size.InRange)
    {text : PageView} (hText : text.size = size.textCells) :
    ∀ region ∈ screenRegions size text, region.size < sizeLimit := by
  have hBitmap (kind : RegionKind) : (Region.ofSize kind size.bitmapBytes).size < sizeLimit := by
    rw [Region.ofSize, Region.size, Backing.size, Array.size_replicate]
    exact hSize.bitmapBytes_lt
  have hPage : (Region.ofPage text).size < sizeLimit :=
    Nat.lt_of_le_of_lt (Nat.le_of_eq hText) hSize.textCells_lt
  simp only [screenRegions, List.forall_mem_cons]
  exact ⟨hPage, hBitmap .graph, hBitmap .buffer, List.forall_mem_nil _⟩

theorem PixelSize.InRange.fitScreen_cases {size : PixelSize} (hSize : size.InRange)
    {space : AddressSpace} (h : LaidOut space) {text : PageView}
    (hText : text.size = size.textCells) :
    let attempt := space.fitScreen size text
    LaidOut attempt.state ∧ ∃ changed kept, screenRegions size text = changed ++ kept ∧
      (attempt.fault = none ↔ kept = []) ∧ (changed = [] → attempt.state = space) ∧
      Exchanged changed space attempt.state := by
  rw [fitScreen_eq]
  apply h.exchangeAll_cases (hSize.screenRegions_lt hText)
  have hKinds : (screenRegions size text).map Region.kind = [.text, .graph, .buffer] := rfl
  rw [hKinds]
  decide

namespace Machine
variable {ι : Type} {machine : Machine ι} {size : PixelSize}

theorem setScreen_of_ne (hNew : size ≠ machine.work.console.size) :
    let console := machine.work.console.setScreen size
    let attempt := machine.work.space.fitScreen size console.pages.view
    machine.setScreen size =
      ⟨{ machine with work := ⟨attempt.state, console⟩ }, attempt.fault.map .memory⟩ :=
  if_neg hNew

theorem laidOut_setScreen (h : LaidOut machine.work.space) (hSize : size.InRange) :
    LaidOut (machine.setScreen size).state.work.space := by
  by_cases hSame : size = machine.work.console.size
  · rw [setScreen_same hSame]
    exact h
  · rw [setScreen_of_ne hSame]
    have hView := (Console.setScreen_of_ne hSame).2.1
    exact (hSize.fitScreen_cases h (congrArg PageView.size hView)).1

end Machine
end Handheld

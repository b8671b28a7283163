import Handheld.Proofs.Machine.Exchange
import Handheld.Proofs.Memory.Spans

/-! # Memory with storage behind it

Behind every address of a machine's memory there is a byte, and there are eight bytes at its start.
This holds after changes of the screen that stopped half way as well: the text region may then show
a page that was put away, which keeps its size.
-/
set_option autoImplicit false
namespace Handheld

namespace TextPages

structure SameSizes (pages after : TextPages) : Prop where
  retired_eq : after.retired.size = pages.retired.size
  size_eq : ∀ serial, (after.page serial).size = (pages.page serial).size

variable {pages after : TextPages}

theorem SameSizes.refl (pages : TextPages) : SameSizes pages pages := ⟨rfl, fun _ => rfl⟩

theorem sameSizes_of_live (hRetired : after.retired = pages.retired)
    (hLive : after.live.size = pages.live.size) : SameSizes pages after where
  retired_eq := congrArg Array.size hRetired
  size_eq serial := by
    rw [page, page, hRetired]
    split
    · exact hLive
    · rfl

theorem sameSizes_modify (pages : TextPages) (serial : Nat) {change : Array UInt8 → Array UInt8}
    (hChange : ∀ page, (change page).size = page.size) :
    SameSizes pages (pages.modify serial change) := by
  by_cases hLive : serial = pages.retired.size
  · rw [modify, if_pos hLive]
    exact sameSizes_of_live rfl (hChange pages.live)
  · rw [modify, if_neg hLive]
    refine ⟨Array.size_modify, fun other => ?_⟩
    rw [page, page]
    simp only [Array.size_modify, Array.getD_eq_getD_getElem?, Array.getElem?_modify]
    split
    · rfl
    · split
      · cases pages.retired[other]? with
        | none => rfl
        | some page => exact hChange page
      · rfl

theorem page_turn {serial : Nat} (h : serial ≤ pages.retired.size) (fresh : Array UInt8) :
    (pages.turn fresh).page serial = pages.page serial := by
  have hOld : serial ≠ (pages.turn fresh).retired.size := by
    rw [turn, Array.size_push]
    omega
  rw [page, if_neg hOld, page, turn, Array.getD_eq_getD_getElem?, Array.getElem?_push]
  split
  · rfl
  · rw [Array.getD_eq_getD_getElem?]

end TextPages

theorem Backing.StoredOn.of_sameSizes {backing : Backing} {pages after : TextPages}
    (h : backing.StoredOn pages) (hSizes : pages.SameSizes after) : backing.StoredOn after := by
  cases backing with
  | bytes | reserved => exact h
  | page view => exact (hSizes.size_eq view.serial).trans h

theorem Backing.sameSizes_onPages (backing : Backing) (pages : TextPages)
    {change : Array UInt8 → Array UInt8} (hChange : ∀ page, (change page).size = page.size) :
    pages.SameSizes (backing.onPages change pages) := by
  cases backing with
  | bytes | reserved => exact .refl pages
  | page view => exact pages.sameSizes_modify view.serial hChange

namespace Contents
variable {contents : Contents} {pages : TextPages}

theorem backing_of_mem {region : Region} (h : region ∈ contents.space.regions) :
    region.backing = (contents.region region.kind).backing := by
  have hMember : region.unplaced ∈ contents.regions :=
    map_unplaced_space ▸ List.mem_map_of_mem h
  obtain ⟨kind, -, hSame⟩ := List.mem_map.mp hMember
  have hKind : kind = region.kind := congrArg Region.kind hSame
  rw [← hKind, hSame]
  rfl

theorem held_space (contents : Contents) (kind : RegionKind) :
    contents.space.held kind = some (contents.region kind) := by
  rw [AddressSpace.held_eq, map_unplaced_space]
  exact getElem?_regions kind

theorem unshared_space (hLaid : contents.space.LaidOut)
    (hText : (Backing.page contents.text).StoredOn pages) :
    Store.Unshared ⟨contents.space, pages⟩ where
  laid := hLaid
  stored region hRegion := by
    rw [backing_of_mem hRegion, Contents.region]
    dsimp only
    split
    · exact hText
    · trivial
  apart := by
    have hSerials : contents.space.regions.map (fun region => region.backing.serial?) =
        contents.regions.map fun region => region.backing.serial? := by
      rw [← map_unplaced_space, List.map_map]
      rfl
    rw [AddressSpace.Apart, hSerials]
    simp [regions, RegionKind.all, Contents.region, Backing.serial?]

theorem eight_le_extent (hRoomy : 8 ≤ (contents.bytes .graph).size) :
    8 ≤ AddressSpace.extent contents.space.regions := by
  have hSize : (contents.region .graph).size ≤ AddressSpace.extent contents.regions :=
    AddressSpace.size_le_extent (List.mem_of_getElem? (getElem?_regions .graph))
  have hGraph : (contents.region .graph).size = (contents.bytes .graph).size := rfl
  rw [space, AddressSpace.extent_layFrom]
  omega

/-- What a change of the screen leaves, whether it comes to its end or not. -/
structure Kept (view : PageView) (contents other : Contents) : Prop where
  runtime_eq : other.bytes .runtime = contents.bytes .runtime
  window_eq : other.window = contents.window
  text_eq : other.text = contents.text ∨ other.text = view
  roomy : 8 ≤ (contents.bytes .graph).size → 8 ≤ (other.bytes .graph).size

theorem Kept.refl (view : PageView) (contents : Contents) : Kept view contents contents :=
  ⟨rfl, rfl, .inl rfl, id⟩

theorem exchange_cases {other : Contents} (h : contents.space.LaidOut) {region : Region}
    (hSize : region.size < AddressSpace.sizeLimit)
    (hRegions : other.regions = contents.regions.set region.kind.place region.unplaced) :
    let attempt := contents.space.exchange region
    (attempt.fault ≠ none ∧ attempt.state = contents.space) ∨
      (attempt.fault = none ∧ attempt.state = other.space ∧ other.space.LaidOut) := by
  intro attempt
  by_cases hOk : attempt.fault = none
  · exact .inr ⟨hOk, exchange_space h hSize hRegions hOk⟩
  · exact .inl ⟨hOk, h.exchange_of_fault hSize hOk⟩

def withPicture (contents : Contents) (kind : RegionKind) (size : PixelSize) : Contents :=
  { contents with
    bytes := fun other =>
      if other = kind then Array.replicate size.bitmapBytes 0 else contents.bytes other }

theorem regions_withPicture (size : PixelSize) {kind : RegionKind}
    (hKind : kind = .graph ∨ kind = .buffer) :
    (contents.withPicture kind size).regions =
      contents.regions.set kind.place (Region.ofSize kind size.bitmapBytes).unplaced := by
  rcases hKind with rfl | rfl
  · rfl
  · rfl

theorem Kept.withPicture {view : PageView} {now : Contents} (h : Kept view contents now)
    {size : PixelSize} (hRoomy : 8 ≤ size.bitmapBytes) {kind : RegionKind}
    (hKind : kind = .graph ∨ kind = .buffer) : Kept view contents (now.withPicture kind size) := by
  have hPicture : 8 ≤ (Array.replicate size.bitmapBytes (0 : UInt8)).size := by
    rwa [Array.size_replicate]
  rcases hKind with rfl | rfl
  · exact ⟨h.runtime_eq, h.window_eq, h.text_eq, fun _ => hPicture⟩
  · exact ⟨h.runtime_eq, h.window_eq, h.text_eq, h.roomy⟩

theorem exchangePicture_kept {view : PageView} {now : Contents} {size : PixelSize}
    (hSize : size.InRange) (hRoomy : 8 ≤ size.bitmapBytes) (hKept : Kept view contents now)
    (hLaid : now.space.LaidOut) {kind : RegionKind} (hKind : kind = .graph ∨ kind = .buffer) :
    ∃ next, Kept view contents next ∧
      (now.space.exchange (.ofSize kind size.bitmapBytes)).state = next.space ∧
      next.space.LaidOut := by
  have hBitmap := size_ofSize_lt kind hSize.bitmapBytes_lt
  obtain ⟨-, hState⟩ | ⟨-, hState, hNext⟩ :=
    exchange_cases hLaid hBitmap (regions_withPicture size hKind)
  · exact ⟨now, hKept, hState, hLaid⟩
  · exact ⟨_, hKept.withPicture hRoomy hKind, hState, hNext⟩

theorem fitScreen_kept (h : contents.space.LaidOut) {size : PixelSize} (hSize : size.InRange)
    {view : PageView} (hView : view.size = size.textCells) :
    ∃ other, Kept view contents other ∧
      (contents.space.fitScreen size view).state = other.space ∧ other.space.LaidOut := by
  have hPage : (Region.ofPage view).size < AddressSpace.sizeLimit :=
    Nat.lt_of_le_of_lt (Nat.le_of_eq hView) hSize.textCells_lt
  let withText : Contents := { contents with text := view }
  rw [AddressSpace.fitScreen]
  obtain ⟨hFault, hState⟩ | ⟨hOk, hState, hLaid⟩ := @exchange_cases contents withText h _ hPage rfl
  · obtain ⟨e, hFault⟩ := Option.ne_none_iff_exists'.mp hFault
    rw [Attempt.andThen, hFault]
    exact ⟨contents, .refl view contents, hState, h⟩
  · rw [Attempt.andThen_of_fault_eq_none hOk, hState]
    -- a text region that found its place is not empty, so that the pictures are not small
    have hCells : 0 < size.textCells := hView ▸ size_region_pos hLaid .text
    have hRoomy : 8 ≤ size.bitmapBytes := Nat.le_trans (by decide) (PixelSize.le_bitmapBytes hCells)
    have hKept : Kept view contents withText := ⟨rfl, rfl, .inr rfl, id⟩
    let P : AddressSpace → Prop := fun space =>
      ∃ other, Kept view contents other ∧ space = other.space ∧ other.space.LaidOut
    refine Attempt.andThen_state (P := P)
      (exchangePicture_kept hSize hRoomy hKept hLaid (.inl rfl)) ?_
    rintro _ ⟨next, hNext, rfl, hNextLaid⟩
    exact exchangePicture_kept hSize hRoomy hNext hNextLaid (.inr rfl)

end Contents

namespace Store

/-- The store has such contents, with a page behind the text region that is whole, and eight bytes
at its start, where the frame window is. -/
structure Furnished (contents : Contents) (store : Store) : Prop where
  space_eq : store.space = contents.space
  laidOut : contents.space.LaidOut
  stored : (Backing.page contents.text).StoredOn store.pages
  serial_le : contents.text.serial ≤ store.pages.retired.size
  roomy : 8 ≤ (contents.bytes .graph).size
  start_eq : contents.window.start = 0

namespace Furnished
variable {contents : Contents} {store : Store}

theorem unshared (h : Furnished contents store) : store.Unshared := by
  obtain ⟨space, pages⟩ := store
  obtain rfl : space = contents.space := h.space_eq
  exact Contents.unshared_space h.laidOut h.stored

theorem eight_le (h : Furnished contents store) :
    8 ≤ AddressSpace.extent store.space.regions := by
  rw [h.space_eq]
  exact Contents.eight_le_extent h.roomy

theorem held_eq (h : Furnished contents store) (kind : RegionKind) :
    store.space.held kind = some (contents.region kind) := by
  rw [h.space_eq]
  exact contents.held_space kind

theorem exists_kind (h : Furnished contents store) {i : Nat} {region : Region}
    (hRegion : store.space.regions[i]? = some region) :
    ∃ kind : RegionKind, kind.place = i ∧ store.space.region? kind = some region ∧
      region.backing = (contents.region kind).backing := by
  rw [h.space_eq] at hRegion ⊢
  have hLength : contents.space.regions.length = 5 := by
    rw [← List.length_map Region.unplaced, Contents.map_unplaced_space]
    rfl
  obtain ⟨kind, rfl⟩ := RegionKind.exists_place (hLength ▸ (List.getElem?_eq_some_iff.mp hRegion).1)
  obtain ⟨other, hOther, hSame⟩ := Option.map_eq_some_iff.mp (contents.held_space kind)
  obtain rfl : region = other := Option.some_inj.mp (hRegion.symm.trans hOther)
  have hBacking : region.unplaced.backing = _ := congrArg Region.backing hSame
  exact ⟨kind, rfl, hOther, hBacking⟩

theorem window?_eq (h : Furnished contents store) : store.space.window? = some contents.window := by
  obtain ⟨region, hRegion, hSame⟩ := Option.map_eq_some_iff.mp (h.held_eq .runtime)
  rw [AddressSpace.window?, hRegion, Option.bind_some]
  exact congrArg Region.window hSame

theorem withPages (h : Furnished contents store) {pages : TextPages}
    (hSizes : store.pages.SameSizes pages) : Furnished contents ⟨store.space, pages⟩ where
  space_eq := h.space_eq
  laidOut := h.laidOut
  stored := h.stored.of_sameSizes hSizes
  serial_le := Nat.le_trans h.serial_le (Nat.le_of_eq hSizes.retired_eq.symm)
  roomy := h.roomy
  start_eq := h.start_eq

theorem withContents (h : Furnished contents store) {other : Contents}
    (hShape : contents.SameShape other) (hLaid : other.space.LaidOut) :
    Furnished other ⟨other.space, store.pages⟩ where
  space_eq := rfl
  laidOut := hLaid
  stored := by
    rw [hShape.text_eq]
    exact h.stored
  serial_le := by
    rw [hShape.text_eq]
    exact h.serial_le
  roomy := by
    rw [hShape.size_eq]
    exact h.roomy
  start_eq := by
    rw [hShape.window_eq]
    exact h.start_eq

theorem setAt (h : Furnished contents store) (kind : RegionKind) (offset : Nat) (value : UInt8) :
    Furnished (contents.write kind offset value) (store.setAt kind.place offset value) := by
  obtain ⟨space, pages⟩ := store
  obtain rfl : space = contents.space := h.space_eq
  have hSpace := Contents.space_setAt h.laidOut pages kind offset value
  have hLaid := h.laidOut.of_sameForm
    (AddressSpace.sameForm_setAt ⟨contents.space, pages⟩ kind.place offset value)
  rw [hSpace] at hLaid
  have hWritten := h.withContents (contents.sameShape_write kind offset value) hLaid
  rw [← hSpace] at hWritten
  refine hWritten.withPages ?_
  rw [Store.setAt]
  split
  · exact .refl pages
  · exact Backing.sameSizes_onPages _ _ fun _ => Array.size_setIfInBounds

theorem writeByte (h : Furnished contents store) (addr : UInt32) (value : UInt8) :
    ∃ other, contents.SameShape other ∧ Furnished other (store.writeByte addr value).state := by
  by_cases hBelow : addr.toNat < AddressSpace.extent store.space.regions
  · obtain ⟨i, region, offset, -, -, hRegion, -, -, -, -, hWrite⟩ :=
      exists_byte h.unshared.laid h.unshared.stored hBelow
    obtain ⟨kind, rfl, -⟩ := h.exists_kind hRegion
    rw [hWrite value]
    exact ⟨_, contents.sameShape_write kind offset value, h.setAt kind offset value⟩
  · rw [(unmapped_of_not_lt_extent h.unshared.laid hBelow).2 value]
    exact ⟨contents, .refl contents, h⟩

theorem writeFrom (h : Furnished contents store) (addr : UInt32) (distance : Nat)
    (values : List UInt8) :
    ∃ other, contents.SameShape other ∧
      Furnished other (Store.writeFrom addr distance values store).state := by
  induction values generalizing contents store distance with
  | nil => exact ⟨contents, .refl contents, h⟩
  | cons value rest ih =>
    rw [Store.writeFrom]
    split
    · exact ⟨contents, .refl contents, h⟩
    · rename_i there _
      refine Attempt.andThen_state
        (P := fun after : Store => ∃ other, contents.SameShape other ∧ Furnished other after)
        (h.writeByte there value) ?_
      rintro after ⟨middle, hMiddle, hAfter⟩
      obtain ⟨last, hLast, hRest⟩ := ih hAfter (distance + 1)
      exact ⟨last, hMiddle.trans hLast, hRest⟩

theorem writeWord (h : Furnished contents store) (addr : UInt32)
    (hEnd : addr.toNat + 4 ≤ AddressSpace.extent store.space.regions) (value : UInt32) :
    (store.writeWord addr value).fault = none ∧
    (∃ other, contents.SameShape other ∧ Furnished other (store.writeWord addr value).state) ∧
    ∀ there, (store.writeWord addr value).state.readByte there =
      store.readOver addr.toNat (toLittleEndian 4 value.toNat) there := by
  have hFour := length_toLittleEndian 4 value.toNat
  have hLength : (toLittleEndian 4 value.toNat).length ≤ addressLimit := by
    rw [hFour, addressLimit]
    omega
  have hDone : (store.writeWord addr value).fault = none :=
    (h.unshared.fault_write_eq_none_iff hLength).mpr (.inr (hFour ▸ hEnd))
  refine ⟨hDone, h.writeFrom addr 0 _, fun there => ?_⟩
  rw [Store.writeWord, h.unshared.readByte_write hLength, h.unshared.take_of_write hLength hDone]

theorem writeWords (h : Furnished contents store) (first second : UInt32) :
    let attempt := (store.writeWord 0 first).andThen fun store => store.writeWord (0 + 4) second
    attempt.fault = none ∧
    (∃ other, contents.SameShape other ∧ Furnished other attempt.state) ∧
    ∀ there, attempt.state.readByte there =
      store.readOver 0 (toLittleEndian 4 first.toNat ++ toLittleEndian 4 second.toNat) there := by
  intro attempt
  have hRoom := h.eight_le
  have hZero : (0 : UInt32).toNat = 0 := rfl
  have hFour : (0 + 4 : UInt32).toNat = 4 := rfl
  obtain ⟨hDone, ⟨middle, hMiddle, hWritten⟩, hRead⟩ := h.writeWord 0 (by omega) first
  have hStill := hWritten.eight_le
  obtain ⟨hAlso, ⟨last, hLast, hBoth⟩, hReadBoth⟩ := hWritten.writeWord (0 + 4) (by omega) second
  have hAttempt : attempt = (store.writeWord 0 first).state.writeWord (0 + 4) second :=
    Attempt.andThen_of_fault_eq_none hDone _
  rw [hAttempt]
  refine ⟨hAlso, ⟨last, hMiddle.trans hLast, hBoth⟩, fun there => ?_⟩
  have hAppend := readOver_append hRead (toLittleEndian 4 second.toNat) there
  rw [hZero, length_toLittleEndian] at hAppend
  rw [hReadBoth, hFour, ← hAppend]

theorem clearAll (h : Furnished contents store) : Furnished contents.zeroed store.clearAll := by
  obtain ⟨space, pages⟩ := store
  obtain rfl : space = contents.space := h.space_eq
  have hSpace := Contents.space_clearAll h.laidOut pages
  have hLaid := h.laidOut.of_sameForm (AddressSpace.sameForm_clearAll ⟨contents.space, pages⟩)
  rw [hSpace] at hLaid
  have hZeroed := h.withContents contents.sameShape_zeroed hLaid
  rw [← hSpace] at hZeroed
  exact hZeroed.withPages
    (pages.sameSizes_modify contents.text.serial fun _ => Array.size_map)

theorem modifyWindow (h : Furnished contents store) {change : Window → Window}
    (hStart : (change contents.window).start = 0) :
    Furnished { contents with window := change contents.window }
      ⟨store.space.modifyWindow change, store.pages⟩ where
  space_eq := by rw [h.space_eq, Contents.modifyWindow_space h.laidOut]
  laidOut := by
    rw [← Contents.modifyWindow_space h.laidOut]
    exact h.laidOut.modifyWindow change
  stored := h.stored
  serial_le := h.serial_le
  roomy := h.roomy
  start_eq := hStart

theorem readByte_runtime (h : Furnished contents store) {addr : UInt32}
    (hAddr : addr.toNat < (contents.bytes .runtime).size) :
    store.readByte addr = .ok (contents.bytes .runtime)[addr.toNat] := by
  obtain ⟨space, pages⟩ := store
  obtain rfl : space = contents.space := h.space_eq
  exact @Store.readByte_bytes ⟨contents.space, pages⟩ _ addr 0 addr.toNat h.laidOut rfl _ rfl hAddr
    (Nat.zero_add _).symm

theorem turn (h : Furnished contents store) {other : Contents} {fresh : Array UInt8}
    (hKept : Contents.Kept (store.pages.turn fresh).view contents other)
    (hLaid : other.space.LaidOut) : Furnished other ⟨other.space, store.pages.turn fresh⟩ where
  space_eq := rfl
  laidOut := hLaid
  stored := by
    rcases hKept.text_eq with hOld | hNew
    · rw [hOld, Backing.StoredOn, TextPages.page_turn h.serial_le]
      exact h.stored
    · rw [hNew, Backing.StoredOn, TextPages.page_view]
      rfl
  serial_le := by
    rcases hKept.text_eq with hOld | hNew
    · have hSerial := h.serial_le
      rw [hOld, TextPages.turn, Array.size_push]
      omega
    · rw [hNew]
      exact Nat.le_refl _
  roomy := hKept.roomy h.roomy
  start_eq := by
    rw [hKept.window_eq]
    exact h.start_eq

end Furnished
end Store

theorem Console.sameSizes_setScreen_same {console : Console} {size : PixelSize}
    (hSame : size = console.size) :
    console.pages.SameSizes (console.setScreen size).pages := by
  rw [Console.setScreen, if_pos hSame]
  exact TextPages.sameSizes_of_live rfl Array.size_map

theorem Console.pages_setScreen_of_ne {console : Console} {size : PixelSize}
    (hNew : size ≠ console.size) :
    (console.setScreen size).pages = console.pages.turn (Array.replicate size.textCells 0) := by
  rw [Console.setScreen, if_neg hNew]
  rfl

theorem Machine.furnished_setScreen {ι : Type} {machine : Machine ι} {contents : Contents}
    (h : machine.work.store.Furnished contents) {size : PixelSize} (hSize : size.InRange) :
    ∃ other : Contents, other.bytes .runtime = contents.bytes .runtime ∧
      other.window = contents.window ∧
      (machine.setScreen size).state.work.store.Furnished other := by
  obtain ⟨interp, ⟨space, console⟩, phase, program⟩ := machine
  by_cases hSame : size = console.size
  · rw [setScreen_same hSame]
    exact ⟨contents, rfl, rfl, h.withPages (Console.sameSizes_setScreen_same hSame)⟩
  · obtain rfl : space = contents.space := h.space_eq
    have hTurned := Console.pages_setScreen_of_ne hSame
    have hView : (console.setScreen size).pages.view.size = size.textCells :=
      congrArg PageView.size (Console.setScreen_of_ne hSame).2.1
    obtain ⟨other, hKept, hState, hLaid⟩ := Contents.fitScreen_kept h.laidOut hSize hView
    rw [setScreen_of_ne hSame]
    refine ⟨other, hKept.runtime_eq, hKept.window_eq, ?_⟩
    dsimp only [Workspace.store]
    rw [hTurned] at hKept hState ⊢
    rw [hState]
    exact h.turn hKept hLaid

theorem Machine.furnished_create {ι : Type} {geometry : Geometry} (hRange : geometry.InRange)
    {interp : ι} {machine : Machine ι} (hCreate : create geometry interp = .ok machine) :
    ∃ contents : Contents, (contents.bytes .runtime).size = geometry.runtimeSize ∧
      machine.work.store.Furnished contents := by
  have h := assembled_create hRange hCreate
  refine ⟨_, h.measures .runtime, ?_⟩
  exact
    { space_eq := h.space_eq
      laidOut := h.laidOut
      stored := by
        rw [h.text_eq, Backing.StoredOn]
        exact congrArg Array.size machine.work.console.pages.page_view
      serial_le := by
        rw [h.text_eq]
        exact Nat.le_refl _
      roomy := by
        have hPicture := PixelSize.le_bitmapBytes (h.fits.occupied .text)
        have hGraph : 8 ≤ geometry.sizeOf .graph := Nat.le_trans (by decide) hPicture
        exact Nat.le_trans hGraph (Nat.le_of_eq Array.size_replicate.symm)
      start_eq := rfl }

end Handheld

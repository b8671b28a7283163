import Handheld.Proofs.Memory.Access

/-! # Pages put away

Of the pages put away a store shows no more than the number that the page in use has got through
them. With other pages put away, and the number changed, it reads and writes the same bytes.
-/
set_option autoImplicit false
namespace Handheld

def Backing.renumber (serial : Nat) : Backing → Backing
  | page view => page ⟨serial, view.size⟩
  | other => other

def Region.renumber (serial : Nat) (region : Region) : Region :=
  { region with backing := region.backing.renumber serial }

theorem Backing.size_renumber (serial : Nat) (backing : Backing) :
    (backing.renumber serial).size = backing.size := by
  cases backing
  all_goals rfl

theorem Backing.reach_renumber (serial : Nat) (backing : Backing) :
    (backing.renumber serial).reach = backing.reach := by
  cases backing
  all_goals rfl

theorem Backing.set_renumber (serial offset : Nat) (value : UInt8) (backing : Backing) :
    (backing.renumber serial).set offset value = (backing.set offset value).renumber serial := by
  cases backing
  all_goals rfl

namespace Region
variable (serial : Nat) (region : Region)

theorem size_renumber : (region.renumber serial).size = region.size :=
  region.backing.size_renumber serial

theorem offset_renumber (addr : UInt32) : (region.renumber serial).offset addr = region.offset addr :=
  congrArg (localOffset addr region.base) (region.backing.reach_renumber serial)

theorem set_renumber (offset : Nat) (value : UInt8) :
    (region.renumber serial).set offset value = (region.set offset value).renumber serial :=
  congrArg (fun backing => { region with backing }) (region.backing.set_renumber serial offset value)

end Region

namespace AddressSpace

def renumber (serial : Nat) (space : AddressSpace) : AddressSpace :=
  { space with regions := space.regions.map (Region.renumber serial) }

variable (serial : Nat) (space : AddressSpace) (addr : UInt32)

theorem side_renumber (region : Region) : side addr (region.renumber serial) = side addr region := by
  rw [side, side, Region.limit, Region.limit, Region.size_renumber]
  rfl

theorem startsAbove_renumber (region? : Option Region) :
    startsAbove addr (region?.map (Region.renumber serial)) = startsAbove addr region? := by
  cases region? with
  | none => rfl
  | some region => rw [Option.map_some, startsAbove, startsAbove, side_renumber]

theorem narrow_renumber (regions : List Region) (start size : Nat) :
    narrow addr (regions.map (Region.renumber serial)) start size =
      narrow addr regions start size := by
  induction size using Nat.strongRecOn generalizing start with
  | ind size ih =>
    rw [narrow, narrow.eq_def addr regions start size]
    by_cases hSize : size ≤ 1
    · rw [if_pos hSize, if_pos hSize]
    · rw [if_neg hSize, if_neg hSize]
      dsimp only
      rw [List.getElem?_map, startsAbove_renumber]
      exact ih (size - size / 2) (by omega) _

theorem find?_renumber : (space.renumber serial).find? addr = space.find? addr := by
  rw [find?, find?]
  dsimp only [renumber]
  rw [List.length_map, narrow_renumber, List.getElem?_map]
  cases space.regions[narrow addr space.regions 0 space.regions.length]? with
  | none => rfl
  | some region =>
    rw [Option.map_some]
    dsimp only
    rw [side_renumber]

theorem region?_renumber (kind : RegionKind) :
    (space.renumber serial).region? kind =
      (space.region? kind).map (Region.renumber serial) := by
  rw [region?, region?, Option.map_bind]
  refine congrArg (Option.bind (space.firsts kind)) (funext fun i => ?_)
  exact List.getElem?_map

theorem window?_renumber : (space.renumber serial).window? = space.window? := by
  rw [window?, window?, region?_renumber]
  cases space.region? .runtime with
  | none => rfl
  | some region => rfl

theorem outlines_renumber :
    (space.renumber serial).regions.map (fun region => (region.kind, region.base, region.size)) =
      space.regions.map fun region => (region.kind, region.base, region.size) := by
  rw [renumber, List.map_map]
  refine List.map_congr_left fun region _ => ?_
  rw [Function.comp_apply, Region.size_renumber]
  rfl

end AddressSpace

namespace Store

/-- Every page that the store reaches is the page in use. -/
def Live (store : Store) : Prop :=
  ∀ region ∈ store.space.regions, ∀ view, region.backing = .page view →
    view.serial = store.pages.retired.size

/-- The store as it would be with other pages put away. -/
def aged (retired : Array (Array UInt8)) (store : Store) : Store where
  space := store.space.renumber retired.size
  pages := ⟨retired, store.pages.live⟩

section Page
variable {pages : TextPages} {backing : Backing}
  (h : ∀ view, backing = .page view → view.serial = pages.retired.size)
include h

theorem read?_aged (retired : Array (Array UInt8)) (offset : Nat) :
    (backing.renumber retired.size).read? ⟨retired, pages.live⟩ offset =
      backing.read? pages offset := by
  cases backing with
  | page view =>
    dsimp only [Backing.renumber, Backing.read?, TextPages.page]
    rw [if_pos rfl, if_pos (h view rfl)]
  | bytes | reserved => rfl

theorem retired_onPages (change : Array UInt8 → Array UInt8) :
    (backing.onPages change pages).retired = pages.retired := by
  cases backing with
  | page view =>
    dsimp only [Backing.onPages, TextPages.modify]
    rw [if_pos (h view rfl)]
  | bytes | reserved => rfl

theorem onPages_aged (retired : Array (Array UInt8)) (change : Array UInt8 → Array UInt8) :
    (backing.renumber retired.size).onPages change ⟨retired, pages.live⟩ =
      ⟨retired, (backing.onPages change pages).live⟩ := by
  cases backing with
  | page view =>
    dsimp only [Backing.renumber, Backing.onPages, TextPages.modify]
    rw [if_pos rfl, if_pos (h view rfl)]
  | bytes | reserved => rfl

end Page

variable {store : Store} (retired : Array (Array UInt8))

theorem readByte_aged (h : store.Live) (addr : UInt32) :
    (store.aged retired).readByte addr = store.readByte addr := by
  rw [readByte, readByte]
  dsimp only [aged]
  rw [AddressSpace.find?_renumber]
  cases store.space.find? addr with
  | none => rfl
  | some i =>
    dsimp only [AddressSpace.renumber]
    rw [List.getElem?_map]
    cases hRegion : store.space.regions[i]? with
    | none => rfl
    | some region =>
      have hPage := h region (List.mem_of_getElem? hRegion)
      dsimp only [Option.map_some]
      rw [Region.read, Region.read, Region.offset_renumber, Region.size_renumber]
      cases region.offset addr with
      | error e => rfl
      | ok offset =>
        dsimp only [Region.renumber]
        rw [read?_aged hPage]

theorem write_aged {region : Region} {pages : TextPages}
    (h : ∀ view, region.backing = .page view → view.serial = pages.retired.size) (addr : UInt32)
    (value : UInt8) :
    (region.renumber retired.size).write ⟨retired, pages.live⟩ addr value =
      (region.write pages addr value).map fun written =>
        (written.1.renumber retired.size, ⟨retired, written.2.live⟩) := by
  rw [Region.write, Region.write, Region.offset_renumber, Region.size_renumber]
  cases region.offset addr with
  | error e => rfl
  | ok offset =>
    dsimp only
    rw [Region.set_renumber]
    dsimp only [Region.renumber]
    rw [read?_aged h, onPages_aged h]
    cases region.backing.read? pages offset with
    | none => rfl
    | some old => rfl

theorem live_of_write {region written : Region} {pages after : TextPages}
    (h : ∀ view, region.backing = .page view → view.serial = pages.retired.size) {addr : UInt32}
    {value : UInt8} (hWrite : region.write pages addr value = .ok (written, after)) :
    after.retired = pages.retired ∧
      ∀ view, written.backing = .page view → view.serial = pages.retired.size := by
  obtain ⟨e, hRefused⟩ | ⟨offset, hDone⟩ := region.write_cases pages addr value
  · cases hRefused.symm.trans hWrite
  · cases hDone.symm.trans hWrite
    refine ⟨retired_onPages h _, fun view hView => ?_⟩
    dsimp only [Region.set] at hView
    cases hBacking : region.backing with
    | page other =>
      rw [hBacking] at hView
      exact h view (hBacking.trans hView)
    | bytes | reserved =>
      rw [hBacking] at hView
      cases hView

/-- Attempts of the same outcome, of which the second is made with other pages put away. -/
structure AgedTogether (retired : Array (Array UInt8)) (first second : Attempt MemoryError Store) :
    Prop where
  live : first.state.Live
  same : second = first.map (aged retired)

theorem writeByte_aged (h : store.Live) (addr : UInt32) (value : UInt8) :
    AgedTogether retired (store.writeByte addr value)
      ((store.aged retired).writeByte addr value) := by
  rw [writeByte, writeByte]
  dsimp only [aged]
  rw [AddressSpace.find?_renumber]
  cases store.space.find? addr with
  | none => exact ⟨h, rfl⟩
  | some i =>
    dsimp only [AddressSpace.renumber]
    rw [List.getElem?_map]
    cases hRegion : store.space.regions[i]? with
    | none => exact ⟨h, rfl⟩
    | some region =>
      have hPage := h region (List.mem_of_getElem? hRegion)
      dsimp only [Option.map_some]
      rw [write_aged retired hPage]
      cases hWrite : region.write store.pages addr value with
      | error e => exact ⟨h, rfl⟩
      | ok result =>
        obtain ⟨hRetired, hLive⟩ := live_of_write hPage hWrite
        constructor
        · intro other hOther view hView
          change view.serial = result.2.retired.size
          rw [hRetired]
          obtain hOld | rfl := List.mem_or_eq_of_mem_set hOther
          · exact h other hOld view hView
          · exact hLive view hView
        · simp only [Except.map, Attempt.done, Attempt.map, aged, AddressSpace.setRegion,
            AddressSpace.renumber, List.map_set]

variable {retired}

theorem AgedTogether.andThen {first second : Attempt MemoryError Store}
    (h : AgedTogether retired first second) {next : Store → Attempt MemoryError Store}
    (hNext : ∀ after : Store, after.Live →
      AgedTogether retired (next after) (next (after.aged retired))) :
    AgedTogether retired (first.andThen next) (second.andThen next) := by
  obtain ⟨state, fault⟩ := first
  rw [h.same]
  cases fault with
  | none => exact hNext state h.live
  | some e => exact ⟨h.live, rfl⟩

theorem writeFrom_aged (h : store.Live) (addr : UInt32) (distance : Nat) (data : List UInt8) :
    AgedTogether retired (writeFrom addr distance data store)
      (writeFrom addr distance data (store.aged retired)) := by
  induction data generalizing store distance with
  | nil => exact ⟨h, rfl⟩
  | cons value rest ih =>
    rw [writeFrom, writeFrom]
    cases advance addr distance with
    | error e => exact ⟨h, rfl⟩
    | ok there =>
      exact (writeByte_aged retired h there value).andThen fun after hAfter =>
        ih hAfter (distance + 1)

theorem writeWord_aged (h : store.Live) (addr : UInt32) (value : UInt32) :
    AgedTogether retired (store.writeWord addr value)
      ((store.aged retired).writeWord addr value) := writeFrom_aged h addr 0 _

end Store
end Handheld

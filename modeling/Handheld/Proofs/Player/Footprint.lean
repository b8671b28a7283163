import Handheld.Proofs.Player.Upkeep

/-! # What a step writes

The console writes the page behind the text region, and the two words of the player are written by
their addresses. No other byte of memory is changed by a step.
-/
set_option autoImplicit false
namespace Handheld
open AddressSpace

def AddressSpace.Holds (space : AddressSpace) (kind : RegionKind) (addr : UInt32) : Prop :=
  ∃ region, space.region? kind = some region ∧ region.Contains addr

namespace Store.Furnished
variable {contents : Contents} {store : Store} {addr : UInt32}

theorem readByte_withPages (h : Furnished contents store) {pages : TextPages}
    (hOutside : ¬ store.space.Holds .text addr) :
    Store.readByte ⟨store.space, pages⟩ addr = store.readByte addr := by
  rw [Store.readByte, Store.readByte]
  dsimp only
  cases hFind : store.space.find? addr with
  | none => rfl
  | some i =>
    obtain ⟨region, hRegion, hContains⟩ := h.unshared.laid.find?_eq_some_iff.mp hFind
    obtain ⟨kind, -, hKind, hBacking⟩ := h.exists_kind hRegion
    have hOwn : kind ≠ .text := by
      rintro rfl
      exact hOutside ⟨region, hKind, hContains⟩
    rw [Contents.region, if_neg hOwn] at hBacking
    simp only [hRegion, Region.read, hBacking, Backing.read?]

theorem kind_eq_of_holds (h : Furnished contents store) {kind other : RegionKind}
    (hHolds : store.space.Holds kind addr) (hAlso : store.space.Holds other addr) :
    kind = other := by
  obtain ⟨region, hRegion, hContains⟩ := hHolds
  obtain ⟨second, hSecond, hContainsToo⟩ := hAlso
  rw [h.space_eq] at hRegion hSecond
  exact RegionKind.place_inj (h.laidOut.eq_of_contains hRegion hSecond hContains hContainsToo)

theorem holds_runtime (h : Furnished contents store)
    (hAddr : addr.toNat < (contents.bytes .runtime).size) : store.space.Holds .runtime addr := by
  rw [h.space_eq]
  have hLimit := h.laidOut.limit_eq (i := 0) rfl
  refine ⟨_, rfl, Nat.zero_le _, ?_⟩
  rw [hLimit]
  exact hAddr

end Store.Furnished

namespace Machine
variable {runtime : Nat} {machine : Machine Player} {addr : UInt32}

theorem Furnished.readByte_step (h : Furnished runtime machine)
    (hText : ¬ machine.work.space.Holds .text addr) (hFrame : 8 ≤ addr.toNat) :
    (machine.step Player.interpreter).state.work.store.readByte addr =
      machine.work.store.readByte addr := by
  have hStepped := h.stepped
  obtain ⟨contents, -, hStore⟩ := h
  generalize machine.step Player.interpreter = attempt at hStepped
  cases hStepped with
  | refused | finished | undecoded => rfl
  | @performed _ _ instruction next =>
    let player := machine.interp.advance instruction next
    obtain ⟨-, -, hRead⟩ := Player.record_furnished
      (Player.furnished_perform hStore instruction) player
    calc (machine.performed instruction next).work.store.readByte addr
        = (machine.work.onConsole (Player.perform instruction)).store.readOver 0 player.frame addr :=
          hRead addr
      _ = (machine.work.onConsole (Player.perform instruction)).store.readByte addr := by
          refine Store.readOver_outside (.inr ?_)
          rw [Player.length_frame]
          exact hFrame
      _ = machine.work.store.readByte addr := hStore.readByte_withPages hText

/-- Whatever was called before, a step leaves the layout and the frame window as they are. A byte that
it changes lies in the text region or in the eight bytes from the start of the window on, which are
runtime memory where that has room for them. -/
theorem footprint_of_step {geometry : Geometry} (hRange : geometry.InRange)
    (hCreate : create geometry Player.idle = .ok machine) {calls : List Call}
    (hCalls : ∀ call ∈ calls, call.InRange) :
    let before := (machine.after calls).work
    let now := ((machine.after calls).step Player.interpreter).state.work
    now.space.regions.map Region.outline = before.space.regions.map Region.outline ∧
    now.space.firsts = before.space.firsts ∧
    now.space.window? = before.space.window? ∧
    (∀ addr, now.store.readByte addr ≠ before.store.readByte addr →
      before.space.Holds .text addr ∨ ∃ window, before.space.window? = some window ∧
        window.start.toNat ≤ addr.toNat ∧ addr.toNat < window.start.toNat + 8) ∧
    (8 ≤ geometry.runtimeSize → ∀ kind, kind ≠ .runtime → kind ≠ .text →
      ∃ region, before.space.region? kind = some region ∧
        ∀ addr, region.Contains addr → now.store.readByte addr = before.store.readByte addr) := by
  intro before now
  have h := furnished_of_calls hRange hCreate hCalls
  have hForm : SameForm before.space now.space := sameForm_step (machine.after calls)
  have hBytes (addr : UInt32) (hText : ¬ before.space.Holds .text addr) (hFrame : 8 ≤ addr.toNat) :
      now.store.readByte addr = before.store.readByte addr := h.readByte_step hText hFrame
  obtain ⟨contents, hSize, hStore⟩ := h
  refine ⟨hForm.outlines_eq, hForm.firsts_eq, hForm.window?_eq, fun addr hChanged => ?_, ?_⟩
  · by_cases hText : before.space.Holds .text addr
    · exact .inl hText
    · have hFrame : ¬ 8 ≤ addr.toNat := fun hFrame => hChanged (hBytes addr hText hFrame)
      refine .inr ⟨contents.window, hStore.window?_eq, ?_⟩
      rw [hStore.start_eq, UInt32.toNat_zero]
      omega
  · intro hRoom kind hRuntime hNotText
    obtain ⟨region, hRegion, -⟩ := Option.map_eq_some_iff.mp (hStore.held_eq kind)
    refine ⟨region, hRegion, fun addr hContains => hBytes addr ?_ ?_⟩
    · exact fun hText => hNotText (hStore.kind_eq_of_holds ⟨region, hRegion, hContains⟩ hText)
    · by_contra hBelow
      have hFirst : addr.toNat < (contents.bytes .runtime).size := by omega
      exact hRuntime (hStore.kind_eq_of_holds ⟨region, hRegion, hContains⟩
        (hStore.holds_runtime hFirst))

/-- The second of two letters is printed: it moves the place on and leaves the picture alone. -/
theorem footprint_of_secondLetter :
    let calls : List Call := [.load ⟨"ab", #[0x61, 0x62]⟩, .step, .setScreen ⟨6, 26⟩]
    ∃ machine, create ⟨⟨16, 32⟩, 8, 1⟩ Player.idle = .ok machine ∧
      let before := (machine.after calls).work
      let now := ((machine.after calls).step Player.interpreter).state.work
      (before.store.readByte 0).toOption = some 1 ∧ (now.store.readByte 0).toOption = some 2 ∧
      now.space.window? = before.space.window? ∧
      ∃ region, before.space.region? .graph = some region ∧
        ∀ addr, region.Contains addr → now.store.readByte addr = before.store.readByte addr := by
  intro calls
  have hRange : Geometry.InRange ⟨⟨16, 32⟩, 8, 1⟩ := by decide
  have hCalls : ∀ call ∈ calls, call.InRange := by decide +revert
  have hRun : ∃ machine, create ⟨⟨16, 32⟩, 8, 1⟩ Player.idle = .ok machine ∧
      ((machine.after calls).work.store.readByte 0).toOption = some 1 ∧
      (((machine.after calls).step Player.interpreter).state.work.store.readByte 0).toOption =
        some 2 := by
    refine ⟨_, rfl, ?_, ?_⟩
    · decide +kernel
    · decide +kernel
  obtain ⟨machine, hCreate, hBefore, hNow⟩ := hRun
  obtain ⟨-, -, hWindow, -, hKept⟩ := footprint_of_step hRange hCreate hCalls
  exact ⟨machine, hCreate, hBefore, hNow, hWindow,
    hKept (by decide) .graph (by decide) (by decide)⟩

end Machine
end Handheld

/-
# Beatsheet.Proofs.Draft.Filled — nothing empty is put away

A draft is filled if all that it has put away is: the scenes of the draft, the blocks of the open
scene and the snippets of the open block. Every move keeps this, since a container is put away only
if something was put into it and a snippet then takes the origin of its first beat; so the scenes of
every script are filled (`filled_ofLines`). Of the open scene, block and snippet themselves nothing
is said: they may be empty.
-/
import Beatsheet.Proofs.Draft.Basic
import Beatsheet.Proofs.Draft.Move
import Beatsheet.Proofs.Forest.Placement

set_option autoImplicit false

namespace Beatsheet

namespace Opened

structure Filled (o : Opened) : Prop where
  blocks : ∀ b ∈ o.scene.blocks, b.Filled
  snippets : ∀ s ∈ o.block.snippets, s.Filled

variable {o : Opened}

theorem filled_closedBlock (filled : o.Filled) (index : Nat) :
    ∀ s ∈ (o.closedBlock index).snippets, s.Filled := by
  intro s member
  rcases mem_closedBlock member with old | ⟨beat, rest, beats, rfl⟩
  · exact filled.snippets s old
  · simp [Snippet.Filled, beats]

theorem filled_closedScene (filled : o.Filled) (index : Nat) :
    ∀ b ∈ (o.closedScene index).blocks, b.Filled := by
  unfold closedScene
  dsimp only
  split
  · exact filled.blocks
  · rename_i some_
    intro b member
    rcases List.mem_append.mp member with old | new
    · exact filled.blocks b old
    · rw [List.mem_singleton] at new
      subst new
      exact ⟨by simpa using some_, filled_closedBlock filled index⟩

end Opened

namespace Draft

structure Filled (d : Draft) : Prop where
  scenes : ∀ s ∈ d.scenes, s.Filled
  opened : ∀ o, d.opened = some o → o.Filled

theorem filled_empty : Filled {} :=
  ⟨by simp, by simp⟩

/-- Only what is put away or open counts. -/
theorem Filled.congr {d d' : Draft} (filled : d.Filled) (scenes : d'.scenes = d.scenes)
    (opened : d'.opened = d.opened) : d'.Filled :=
  ⟨scenes ▸ filled.scenes, opened ▸ filled.opened⟩

variable {d : Draft}

theorem Filled.boundary (filled : d.Filled) : d.boundary.Filled := by
  unfold Draft.boundary
  split
  · exact filled.congr rfl rfl
  · rename_i o opened
    have was := filled.opened o opened
    refine ⟨filled.scenes, fun o' eq => ?_⟩
    obtain rfl := Option.some.inj eq
    exact ⟨was.blocks, Opened.filled_closedBlock was _⟩

theorem Filled.close (filled : d.Filled) : d.close.Filled := by
  unfold Draft.close
  split
  · exact filled
  · rename_i o opened
    have blocks := Opened.filled_closedScene (filled.opened o opened) d.members
    refine ⟨?_, by simp⟩
    dsimp only
    split
    · exact filled.scenes
    · rename_i some_
      intro s member
      rcases List.mem_append.mp member with old | new
      · exact filled.scenes s old
      · rw [List.mem_singleton] at new
        subst new
        exact ⟨by simpa using some_, blocks⟩

theorem Filled.beginScene (filled : d.Filled) (id : Text) (origin : Origin) :
    (d.beginScene id origin).Filled := by
  refine ⟨filled.close.scenes, fun o eq => ?_⟩
  obtain rfl := Option.some.inj eq
  exact ⟨by simp, by simp⟩

theorem Filled.beginBlock (filled : d.Filled) (id : Text) (origin : Origin) :
    (d.beginBlock id origin).Filled := by
  unfold Draft.beginBlock
  cases opened : d.opened with
  | none => exact ⟨filled.scenes, by simp [emit]⟩
  | some o =>
      refine ⟨by simpa [emit, opened] using filled.scenes, fun o' eq => ?_⟩
      simp only [emit, Option.some.injEq] at eq
      subst eq
      exact ⟨Opened.filled_closedScene (filled.opened o opened) _, by simp⟩

theorem Filled.countGroup (filled : d.Filled) : d.countGroup.Filled := by
  refine ⟨filled.scenes, fun o' eq => ?_⟩
  rw [opened_countGroup, Option.map_eq_some_iff] at eq
  obtain ⟨o, opened, rfl⟩ := eq
  have was := filled.opened o opened
  refine ⟨was.blocks, ?_⟩
  simp only [List.forall_mem_map, Snippet.Filled, beats_counted, origin_counted]
  exact was.snippets

theorem Filled.openLevel (filled : d.Filled) (group : Bool) : (d.openLevel group).Filled := by
  unfold Draft.openLevel
  apply Filled.boundary
  split
  · exact filled.congr rfl rfl
  · exact filled.congr rfl rfl

theorem Filled.closeLevel (filled : d.Filled) : d.closeLevel.Filled := by
  unfold Draft.closeLevel
  dsimp only
  split
  · refine Filled.countGroup (Filled.boundary ?_)
    exact filled.congr rfl rfl
  · refine Filled.boundary ?_
    exact filled.congr rfl rfl

theorem Filled.addBeat (filled : d.Filled) {o : Opened} (opened : d.opened = some o) (beat : Beat) :
    (d.addBeat o beat).Filled := by
  have was := filled.opened o opened
  obtain ⟨added, -, after⟩ := d.opened_addBeat o beat
  refine ⟨by simpa using filled.scenes, fun o' eq => ?_⟩
  obtain rfl := Option.some.inj (after.symm.trans eq)
  exact ⟨was.blocks, was.snippets⟩

theorem Filled.passBy (filled : d.Filled) (origin : Origin) (tagged : Option Tagged) :
    (d.passBy origin tagged).Filled := by
  unfold Draft.passBy
  cases tagged with
  | none => exact filled.congr rfl rfl
  | some t => exact filled.congr rfl rfl

theorem Filled.move {d' : Draft} (move : Move d d') (filled : d.Filled) : d'.Filled := by
  cases move with
  | emit e | note comment | cascade c | merging b => exact filled.congr rfl rfl
  | boundary => exact filled.boundary
  | boundaryKeeping =>
      have emptied : Filled { d with pending := [] } := filled.congr rfl rfl
      exact emptied.boundary.congr rfl rfl
  | openLevel group => exact filled.openLevel group
  | closeLevel => exact filled.closeLevel
  | beginScene id origin => exact filled.beginScene id origin
  | beginBlock id origin => exact filled.beginBlock id origin
  | addBeat o beat opened => exact filled.addBeat opened beat
  | passBy origin tagged => exact filled.passBy origin tagged

theorem filled_upTo (lines : List SourceLine) : (upTo lines).Filled :=
  upTo_induction filled_empty (fun _ _ move filled => filled.move move) lines

/-- **No scene, block or snippet of a script is empty**, and a snippet has the origin of its first
beat. -/
theorem filled_ofLines (lines : List SourceLine) : ∀ s ∈ (ofLines lines).scenes, s.Filled :=
  (filled_upTo lines).close.scenes

end Draft

end Beatsheet

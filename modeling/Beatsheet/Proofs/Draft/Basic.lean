/-
# Beatsheet.Proofs.Draft.Basic — what the operations on drafts do

One lemma for each part of a draft that an operation is later asked about: what a block or scene
holds once it is closed, what a boundary leaves open, and what closing a group tells its members.
-/
import Beatsheet.Draft

set_option autoImplicit false

namespace Beatsheet

namespace Opened

variable {o : Opened} {index : Nat}

/-- A snippet of the closed block was put away before, or it is the open one, if that has a beat. -/
theorem mem_closedBlock {s : Snippet Nat} (member : s ∈ (o.closedBlock index).snippets) :
    s ∈ o.block.snippets ∨ ∃ beat rest, o.snippet.beats = beat :: rest ∧
      s = { o.snippet with
        origin := beat.origin, groupIndex := o.snippet.group.map fun _ => index } := by
  unfold closedBlock at member
  split at member
  · exact .inl member
  · rename_i beat rest beats
    rcases List.mem_append.mp member with old | new
    · exact .inl old
    · exact .inr ⟨beat, rest, beats, List.mem_singleton.mp new⟩

theorem closedScene_eq (o : Opened) (i : Nat) :
    o.closedScene i =
      { o.scene with
        blocks := o.scene.blocks ++
          if (o.closedBlock i).snippets.isEmpty then [] else [o.closedBlock i] } := by
  unfold closedScene
  dsimp only
  split <;> simp

theorem snippets_closedScene (o : Opened) (i : Nat) :
    (o.closedScene i).snippets = o.scene.snippets ++ (o.closedBlock i).snippets := by
  rw [closedScene_eq, Scene.snippets, Scene.snippets, List.flatMap_append]
  split
  · rename_i none_
    rw [List.isEmpty_iff] at none_
    rw [none_, List.flatMap_nil]
  · rw [List.flatMap_singleton]

end Opened

namespace Draft

theorem diagnostics_emit (d : Draft) (event : Event) :
    (d.emit event).diagnostics = d.diagnostics ++ event.diagnostic?.toList := by
  rw [diagnostics, emit, List.filterMap_append, ← diagnostics]
  cases told : event.diagnostic? <;> simp [told]

/-! ## Boundaries -/

section Boundary

variable {d : Draft}

theorem opened_boundary {o : Opened} (opened : d.opened = some o) :
    d.boundary.opened = some
      { o with
        block := o.closedBlock d.members
        snippet := d.freshSnippet (o.carried ++ d.pending) } := by
  simp only [boundary, opened]

/-- Outside a scene only the pending comments are lost. -/
theorem boundary_of_none (opened : d.opened = none) : d.boundary = { d with pending := [] } := by
  simp only [boundary, opened]

@[simp] theorem scenes_boundary (d : Draft) : d.boundary.scenes = d.scenes := by
  unfold boundary
  split <;> rfl

theorem members_boundary (d : Draft) :
    d.boundary.members = d.members + d.opened.elim 0 Opened.newMembers := by
  unfold boundary
  cases d.opened <;> rfl

@[simp] theorem groups_boundary (d : Draft) : d.boundary.groups = d.groups := by
  unfold boundary
  split <;> rfl

@[simp] theorem groupDepth_boundary (d : Draft) : d.boundary.groupDepth = d.groupDepth := by
  unfold boundary
  split <;> rfl

@[simp] theorem taggedLines_boundary (d : Draft) : d.boundary.taggedLines = d.taggedLines := by
  unfold boundary
  split <;> rfl

@[simp] theorem events_boundary (d : Draft) : d.boundary.events = d.events := by
  unfold boundary
  split <;> rfl

/-! It does not matter to what is recorded, nor to the cascade, whether it changes before or behind a
boundary. -/

theorem boundary_emit (d : Draft) (event : Event) :
    (d.emit event).boundary = d.boundary.emit event := by
  unfold boundary emit
  cases d.opened <;> rfl

theorem boundary_taggedLines (d : Draft) (taggedLines : List TaggedLine) :
    ({ d with taggedLines } : Draft).boundary = { d.boundary with taggedLines } := by
  unfold boundary
  cases d.opened <;> rfl

theorem boundary_cascade (d : Draft) (cascade : Cascade) :
    ({ d with cascade } : Draft).boundary = { d.boundary with cascade } := by
  unfold boundary
  cases d.opened <;> rfl

end Boundary

/-! ## Closing -/

@[simp] theorem started_close (d : Draft) : d.close.started = d.started := by
  unfold close
  split <;> rfl

@[simp] theorem opened_close (d : Draft) : d.close.opened = none := by
  unfold close
  split
  · assumption
  · rfl

@[simp] theorem groups_close (d : Draft) : d.close.groups = d.groups := by
  unfold close
  split <;> rfl

@[simp] theorem groupDepth_close (d : Draft) : d.close.groupDepth = d.groupDepth := by
  unfold close
  split <;> rfl

@[simp] theorem merging_close (d : Draft) : d.close.merging = d.merging := by
  unfold close
  split <;> rfl

@[simp] theorem cascade_close (d : Draft) : d.close.cascade = d.cascade := by
  unfold close
  split <;> rfl

theorem members_close (d : Draft) :
    d.close.members = d.members + d.opened.elim 0 Opened.newMembers := by
  unfold close
  cases d.opened <;> rfl

@[simp] theorem taggedLines_close (d : Draft) : d.close.taggedLines = d.taggedLines := by
  unfold close
  split <;> rfl

@[simp] theorem events_close (d : Draft) : d.close.events = d.events := by
  unfold close
  split <;> rfl

/-! ## Headers -/

@[simp] theorem scenes_beginBlock (d : Draft) (id : Text) (origin : Origin) :
    (d.beginBlock id origin).scenes = d.scenes := by
  unfold beginBlock
  dsimp only
  split <;> rfl

/-! ## Beats -/

section Beats

variable (d : Draft) (o : Opened) (beat : Beat)

/-- The snippet that a beat is added to, and the beat as it is added. -/
theorem opened_addBeat :
    ∃ added : Beat, added.origin = beat.origin ∧
      (d.addBeat o beat).opened = some
        { o with
          snippet :=
            { o.snippet with
              group := if d.groupDepth.isSome then some d.groups else o.snippet.group
              beats := o.snippet.beats ++ [added] } } := by
  refine ⟨{ beat with comments := d.pending, tags := d.cascade.apply beat.tags }, rfl, ?_⟩
  unfold addBeat
  dsimp only
  split <;> rfl

@[simp] theorem scenes_addBeat : (d.addBeat o beat).scenes = d.scenes := by
  unfold addBeat
  dsimp only
  split <;> rfl

@[simp] theorem groups_addBeat : (d.addBeat o beat).groups = d.groups := by
  unfold addBeat
  dsimp only
  split <;> rfl

@[simp] theorem groupDepth_addBeat : (d.addBeat o beat).groupDepth = d.groupDepth := by
  unfold addBeat
  dsimp only
  split <;> rfl

@[simp] theorem members_addBeat : (d.addBeat o beat).members = d.members := by
  unfold addBeat
  dsimp only
  split <;> rfl

end Beats

/-! ## Prose -/

/-- Prose may be complained of, which only makes an event. Then it is noted as a label or it has its
shape taken; where the annotation is on, it has its shape taken only if it is no label. -/
theorem prose_cases (d : Draft) (line : Text) (origin : Origin) (ways : Prose) :
    ∃ events,
      (∃ label, d.cascade.active = true ∧ ways.label = some label ∧
        d.prose line origin ways = ({ d with events } : Draft).note label) ∨
      ((d.cascade.active = true → ways.label = none) ∧
        d.prose line origin ways = ({ d with events } : Draft).takeShape line origin ways) := by
  obtain ⟨events, complained⟩ : ∃ events,
      (if ways.straying && d.cascade.active then d.complain (.contentAfterClause line) origin
        else d) = { d with events } := by
    split
    · exact ⟨_, rfl⟩
    · exact ⟨d.events, rfl⟩
  refine ⟨events, ?_⟩
  unfold prose
  dsimp only
  rw [complained]
  cases active : d.cascade.active with
  | false => exact .inr ⟨nofun, rfl⟩
  | true =>
      cases label : ways.label with
      | none => exact .inr ⟨fun _ => rfl, rfl⟩
      | some text => exact .inl ⟨text, rfl, rfl, rfl⟩

/-! ## Counting a group -/

/-- A snippet that has been told how many the last group is, if it belongs to that. -/
def counted (d : Draft) (s : Snippet Nat) : Snippet Nat :=
  if s.group == some d.groups then { s with groupCount := some d.members } else s

section Counted

variable (d : Draft) (s : Snippet Nat)

@[simp] theorem id_counted : (d.counted s).id = s.id := by
  unfold counted
  split <;> rfl

@[simp] theorem group_counted : (d.counted s).group = s.group := by
  unfold counted
  split <;> rfl

@[simp] theorem origin_counted : (d.counted s).origin = s.origin := by
  unfold counted
  split <;> rfl

@[simp] theorem beats_counted : (d.counted s).beats = s.beats := by
  unfold counted
  split <;> rfl

theorem opened_countGroup :
    d.countGroup.opened = d.opened.map fun o =>
      { o with block := { o.block with snippets := o.block.snippets.map d.counted } } := rfl

end Counted

end Draft

end Beatsheet

/-
# Beatsheet.Proofs.Draft.Outline — the outline of a draft

What is open and what has been put away is spread over four containers, each of which may be put
away, dropped or replaced. The outline of a draft forgets the containers: it keeps the headings of
the open scene and block, the placements of all beats read so far, whether put away or still open,
and the origins of the tagged lines. No turn of the flow changes the outline (`outline_turn`);
headers change the headings only, and what is left adds one placement, one origin or nothing. So a
line does to the outline what `Outline.step` says (`outline_step`).
-/
import Beatsheet.Proofs.Draft.Basic
import Beatsheet.Proofs.Draft.Site
import Beatsheet.Proofs.Forest.Placement

set_option autoImplicit false

namespace Beatsheet

/-! ## Lines that count -/

namespace SourceLine

/-- What a knot header declares. -/
def knot? (line : SourceLine) : Option Heading :=
  match line.kind with
  | .content _ (.knot id) => some ⟨id, line.origin⟩
  | _ => none

/-- What a stitch header declares. -/
def stitch? (line : SourceLine) : Option Heading :=
  match line.kind with
  | .content _ (.stitch id) => some ⟨id, line.origin⟩
  | _ => none

end SourceLine

namespace Draft

/-- Whether a draft reads prose as a beat: it has the shape of one and is not taken for a label, the
annotation is on, and a scene is open. -/
def readsProse (d : Draft) (ways : Prose) : Bool :=
  d.cascade.active && d.opened.isSome && ways.label.isNone && ways.shape.isSome

/-- Whether a draft records prose for the identifier it declares: where the annotation is on, prose
that is neither a label nor a beat. -/
def recordsProse (d : Draft) (ways : Prose) : Bool :=
  ways.tagged.isSome &&
    !(d.cascade.active && (ways.label.isSome || (d.opened.isSome && ways.shape.isSome)))

def readsBeat (d : Draft) (line : SourceLine) : Bool :=
  line.prose?.any d.readsProse

def recordsTagged (d : Draft) (line : SourceLine) : Bool :=
  line.prose?.any d.recordsProse

/-- A beat is read only where the annotation is on and a scene is open. -/
theorem active_of_readsBeat {d : Draft} {line : SourceLine} (beat : d.readsBeat line = true) :
    d.cascade.active = true ∧ d.opened.isSome = true := by
  rw [readsBeat, Option.any_eq_true] at beat
  obtain ⟨ways, -, reads⟩ := beat
  simp only [readsProse, Bool.and_eq_true] at reads
  exact reads.1.1

/-- No line is both. -/
theorem recordsTagged_of_readsBeat {d : Draft} {line : SourceLine}
    (beat : d.readsBeat line = true) : d.recordsTagged line = false := by
  unfold readsBeat at beat
  unfold recordsTagged
  cases prose : line.prose? with
  | none => rfl
  | some ways =>
      simp only [prose, Option.any_some, readsProse, Bool.and_eq_true] at beat
      obtain ⟨⟨⟨active, opened⟩, -⟩, shape⟩ := beat
      simp [recordsProse, active, opened, shape]

end Draft

/-! ## Outlines -/

structure Outline where
  headings : Option (Heading × Heading) := none
  placements : List Placement := []
  tagged : List Origin := []
  deriving DecidableEq, Repr

namespace Outline

/-- The headings after a line: a knot header heads a scene and, with the same origin, a block
without a name; a stitch header heads a block if a scene is open. -/
def headingsAfter (headings : Option (Heading × Heading)) (line : SourceLine) :
    Option (Heading × Heading) :=
  match line.knot?, line.stitch? with
  | some scene, _ => some (scene, ⟨[], scene.origin⟩)
  | none, some block => headings.map fun h => (h.1, block)
  | none, none => headings

/-- A line that is a beat is placed under the open headings. -/
def addBeat (o : Outline) (origin : Origin) : Outline :=
  { o with
    placements := o.placements ++ (o.headings.map fun h => ⟨h.1, h.2, origin⟩).toList }

def addTagged (o : Outline) (origin : Origin) : Outline :=
  { o with tagged := o.tagged ++ [origin] }

/-- The outline after a line at `origin` that is a beat, a tagged line or neither. -/
def add (o : Outline) (origin : Origin) (beat tagged : Bool) : Outline :=
  if beat then o.addBeat origin else if tagged then o.addTagged origin else o

/-- The outline after a line. -/
def step (o : Outline) (line : SourceLine) (beat tagged : Bool) : Outline :=
  { o.add line.origin beat tagged with headings := headingsAfter o.headings line }

end Outline

namespace Opened

def headings (o : Opened) : Heading × Heading :=
  (o.scene.heading, o.block.heading)

def placements (o : Opened) : List Placement :=
  o.scene.placements ++ o.block.placements o.scene.heading ++
    o.snippet.placements o.scene.heading o.block.heading

@[simp] theorem heading_closedBlock (o : Opened) (index : Nat) :
    (o.closedBlock index).heading = o.block.heading := by
  unfold closedBlock
  split <;> rfl

@[simp] theorem heading_closedScene (o : Opened) (index : Nat) :
    (o.closedScene index).heading = o.scene.heading := by
  unfold closedScene
  dsimp only
  split <;> rfl

/-- Putting the open snippet into the block loses no beat, for a dropped snippet has none. -/
@[simp] theorem placements_closedBlock (o : Opened) (index : Nat) (scene : Heading) :
    (o.closedBlock index).placements scene =
      o.block.placements scene ++ o.snippet.placements scene o.block.heading := by
  unfold closedBlock
  split
  · rename_i noBeats
    simp [Snippet.placements, noBeats]
  · rename_i beat rest beats
    simp [Block.placements, Snippet.placements, Block.heading, beats]

/-- Putting the open block into the scene loses no beat, for a dropped block has no snippet. -/
@[simp] theorem placements_closedScene (o : Opened) (index : Nat) :
    (o.closedScene index).placements = o.placements := by
  have block := o.placements_closedBlock index o.scene.heading
  unfold closedScene
  dsimp only
  split
  · rename_i empty
    rw [List.isEmpty_iff] at empty
    rw [Block.placements, empty, List.flatMap_nil] at block
    rw [placements, List.append_assoc, ← block, List.append_nil]
  · calc _ = o.scene.placements ++ (o.closedBlock index).placements o.scene.heading := by
          simp [Scene.placements, Scene.heading]
      _ = o.placements := by rw [block, placements, List.append_assoc]

end Opened

namespace Draft

def outline (d : Draft) : Outline where
  headings := d.opened.map Opened.headings
  placements := d.scenes.flatMap Scene.placements ++ (d.opened.map Opened.placements).getD []
  tagged := d.taggedLines.map (·.origin)

/-! ## What moves do to the outline -/

@[simp] theorem outline_emit (d : Draft) (e : Event) : (d.emit e).outline = d.outline := rfl

@[simp] theorem outline_complain (d : Draft) (c : Complaint) (origin : Origin) :
    (d.complain c origin).outline = d.outline := rfl

@[simp] theorem outline_note (d : Draft) (comment : Text) :
    (d.note comment).outline = d.outline := rfl

@[simp] theorem outline_boundary (d : Draft) : d.boundary.outline = d.outline := by
  unfold boundary
  split
  · rfl
  · rename_i o opened
    simp [outline, opened, Opened.headings, Opened.placements, Snippet.placements, freshSnippet]

@[simp] theorem outline_boundaryKeeping (d : Draft) : d.boundaryKeeping.outline = d.outline :=
  (outline_boundary { d with pending := [] } : _)

@[simp] theorem outline_countGroup (d : Draft) : d.countGroup.outline = d.outline := by
  have after := d.opened_countGroup
  cases opened : d.opened with
  | none =>
      rw [opened] at after
      simp only [outline, opened, after]
      rfl
  | some o =>
      have same := Block.placements_map_snippets d.beats_counted o.scene.heading o.block
      rw [opened, Option.map_some] at after
      simp only [outline, opened, after, Option.map_some, Option.getD_some, Opened.placements, same]
      rfl

@[simp] theorem outline_openLevel (d : Draft) (group : Bool) :
    (d.openLevel group).outline = d.outline := by
  unfold openLevel
  dsimp only
  rw [outline_boundary]
  split <;> rfl

@[simp] theorem outline_closeLevel (d : Draft) : d.closeLevel.outline = d.outline := by
  unfold closeLevel
  dsimp only
  split
  · rw [outline_countGroup, outline_boundary]
    rfl
  · rw [outline_boundary]
    rfl

theorem outline_turn (d : Draft) (t : Turn) : (d.turn t).outline = d.outline := by
  cases t with
  | opening group => exact outline_openLevel d group
  | closing => exact outline_closeLevel d
  | speech =>
      simp only [turn]
      split
      · exact outline_boundaryKeeping d
      · rw [outline_boundary]; rfl
  | choice text => simp only [turn, outline_boundary, outline_note]; rfl
  | gather =>
      simp only [turn]
      split
      · rw [outline_boundary, outline_note]; rfl
      · exact outline_boundary d
  | other => simp only [turn, outline_boundary]; rfl

/-- Putting the open scene away loses no beat, for a dropped scene has no block. -/
theorem outline_close (d : Draft) : d.close.outline = { d.outline with headings := none } := by
  unfold close
  split
  · rename_i opened
    simp [outline, opened]
  · rename_i o opened
    have scene := o.placements_closedScene d.members
    dsimp only
    split
    · rename_i empty
      rw [List.isEmpty_iff] at empty
      rw [Scene.placements, empty, List.flatMap_nil] at scene
      simp [outline, opened, ← scene]
    · simp [outline, opened, scene]

theorem outline_beginScene (d : Draft) (id : Text) (origin : Origin) :
    (d.beginScene id origin).outline =
      { d.outline with headings := some (⟨id, origin⟩, ⟨[], origin⟩) } := by
  have closed := d.outline_close
  simp only [outline, opened_close, Option.map_none, Option.getD_none, List.append_nil,
    Outline.mk.injEq, true_and] at closed
  simp [beginScene, emit, outline, closed, freshSnippet, Opened.headings, Opened.placements,
    Scene.heading, Block.heading, Scene.placements, Block.placements, Snippet.placements]

theorem outline_beginBlock (d : Draft) (id : Text) (origin : Origin) :
    (d.beginBlock id origin).outline =
      { d.outline with headings := d.outline.headings.map fun h => (h.1, ⟨id, origin⟩) } := by
  unfold beginBlock
  cases opened : d.opened with
  | none => simp [emit, outline, opened]
  | some o =>
      simp [emit, outline, opened, freshSnippet, Opened.headings, Opened.placements, Block.heading,
        Block.placements, Snippet.placements]

theorem outline_addBeat {d : Draft} {o : Opened} (opened : d.opened = some o) (beat : Beat) :
    (d.addBeat o beat).outline = d.outline.addBeat beat.origin := by
  unfold addBeat
  dsimp only
  split <;>
    simp [outline, Outline.addBeat, complain, emit, opened, Opened.headings, Opened.placements,
      Snippet.placements]

theorem outline_passBy (d : Draft) (origin : Origin) (tagged : Option Tagged) :
    (d.passBy origin tagged).outline =
      if tagged.isSome then d.outline.addTagged origin else d.outline := by
  unfold passBy
  cases tagged <;> simp [outline, Outline.addTagged, emit]

/-! ## What a line does to the outline -/

@[simp] theorem cascade_boundary (d : Draft) : d.boundary.cascade = d.cascade := by
  unfold boundary
  split <;> rfl

@[simp] theorem cascade_turn (d : Draft) (t : Turn) : (d.turn t).cascade = d.cascade := by
  cases t with
  | opening group =>
      simp only [turn, openLevel, cascade_boundary]
      split <;> rfl
  | closing =>
      simp only [turn, closeLevel]
      split <;> simp [countGroup, emit, note]
  | speech =>
      simp only [turn]
      split <;> simp [boundaryKeeping]
  | choice text => simp [turn, note]
  | gather =>
      simp only [turn]
      split <;> simp [note]
  | other => simp [turn]

theorem isSome_headings_outline (d : Draft) : d.outline.headings.isSome = d.opened.isSome := by
  simp [outline]

@[simp] theorem isSome_opened_turn (d : Draft) (t : Turn) :
    (d.turn t).opened.isSome = d.opened.isSome := by
  rw [← isSome_headings_outline, outline_turn, isSome_headings_outline]

theorem isSome_opened_boundary (d : Draft) : d.boundary.opened.isSome = d.opened.isSome := by
  rw [← isSome_headings_outline, outline_boundary, isSome_headings_outline]

theorem origin_beatOf (origin : Origin) (shape : Shape) :
    (beatOf origin shape).origin = origin := by
  cases shape <;> rfl

theorem outline_takeShape (d : Draft) (line : Text) (origin : Origin) {ways : Prose}
    (unlabelled : d.cascade.active = true → ways.label = none) :
    (d.takeShape line origin ways).outline =
      d.outline.add origin (d.readsProse ways) (d.recordsProse ways) := by
  unfold takeShape
  cases found : ways.shape with
  | none =>
      have quiet : d.cascade.active = true → ways.label.isSome = false := fun active => by
        simp [unlabelled active]
      cases active : d.cascade.active <;>
        simp_all [outline_passBy, Outline.add, readsProse, recordsProse]
  | some shape =>
      cases active : d.cascade.active with
      | false =>
          cases shape <;>
            simp_all [outline_passBy, Outline.add, readsProse, recordsProse]
      | true =>
          cases opened : d.opened with
          | none => simp_all [outline_passBy, Outline.add, readsProse, recordsProse]
          | some o =>
              simp_all [outline_addBeat opened, origin_beatOf, Outline.add, readsProse]

theorem outline_prose (d : Draft) (line : Text) (origin : Origin) (ways : Prose) :
    (d.prose line origin ways).outline =
      d.outline.add origin (d.readsProse ways) (d.recordsProse ways) := by
  obtain ⟨events, ⟨label, active, labelled, noted⟩ | ⟨unlabelled, shaped⟩⟩ :=
    d.prose_cases line origin ways
  · rw [noted, outline_note]
    simp [Outline.add, readsProse, recordsProse, active, labelled, outline]
  · rw [shaped]
    exact outline_takeShape { d with events } line origin unlabelled

/-- What a line of content does to the outline, once it has turned the flow. -/
theorem outline_play (d : Draft) (text : Text) (line : SourceLine) {turn : Option Turn}
    {role : Role} (kind : line.kind = .content turn role) :
    (d.play text line.origin role).outline =
      d.outline.step line (d.readsBeat line) (d.recordsTagged line) := by
  cases role with
  | clause =>
      simp [play, Outline.step, Outline.headingsAfter, Outline.add, readsBeat, recordsTagged,
        SourceLine.prose?, SourceLine.knot?, SourceLine.stitch?, kind]
  | knot id =>
      simp [play, outline_beginScene, Outline.step, Outline.headingsAfter, Outline.add, readsBeat,
        recordsTagged, SourceLine.prose?, SourceLine.knot?, kind]
  | stitch id =>
      simp [play, outline_beginBlock, Outline.step, Outline.headingsAfter, Outline.add, readsBeat,
        recordsTagged, SourceLine.prose?, SourceLine.knot?, SourceLine.stitch?, kind]
  | comment text =>
      simp [play, Outline.step, Outline.headingsAfter, Outline.add, readsBeat, recordsTagged,
        SourceLine.prose?, SourceLine.knot?, SourceLine.stitch?, kind]
  | prose ways =>
      have headings : Outline.headingsAfter d.outline.headings line = d.outline.headings := by
        simp [Outline.headingsAfter, SourceLine.knot?, SourceLine.stitch?, kind]
      have prose : line.prose? = some ways := by simp [SourceLine.prose?, kind]
      simp only [play, outline_prose, Outline.step, headings, readsBeat, recordsTagged, prose,
        Option.any_some, Outline.add]
      split
      · rfl
      · split <;> rfl

/-- A line finds the same annotation and the same open scene whether or not the flow was turned. -/
theorem reads_congr (d d' : Draft) (active : d'.cascade.active = d.cascade.active)
    (opened : d'.opened.isSome = d.opened.isSome) (line : SourceLine) :
    d'.readsBeat line = d.readsBeat line ∧ d'.recordsTagged line = d.recordsTagged line := by
  have reads : d'.readsProse = d.readsProse := by
    funext ways
    simp [readsProse, active, opened]
  have records : d'.recordsProse = d.recordsProse := by
    funext ways
    simp [recordsProse, active, opened]
  exact ⟨by rw [readsBeat, readsBeat, reads], by rw [recordsTagged, recordsTagged, records]⟩

theorem outline_take (d : Draft) (text : Text) (line : SourceLine) :
    (d.take text line.origin line.kind).outline =
      d.outline.step line (d.readsBeat line) (d.recordsTagged line) := by
  cases kind : line.kind with
  | blank | statement =>
      simp [take, Outline.step, Outline.headingsAfter, Outline.add, readsBeat, recordsTagged,
        SourceLine.prose?, SourceLine.knot?, SourceLine.stitch?, kind]
  | tags tokens =>
      simp only [take, outline_emit, Outline.step, Outline.headingsAfter, Outline.add, readsBeat,
        recordsTagged, SourceLine.prose?, SourceLine.knot?, SourceLine.stitch?, kind,
        Option.any_none, if_false, Bool.false_eq_true]
      rfl
  | content turn role =>
      let marked : Draft := { d with cascade := d.cascade.markContent }
      cases turn with
      | none =>
          have same := reads_congr d marked rfl rfl line
          rw [← same.1, ← same.2]
          exact outline_play marked text line kind
      | some turn =>
          have same := reads_congr d (marked.turn turn)
            (by rw [cascade_turn]; rfl) (by rw [isSome_opened_turn]) line
          rw [← same.1, ← same.2]
          exact (outline_play (marked.turn turn) text line kind).trans
            (by rw [outline_turn]; rfl)

/-- **What a line does to the outline.** -/
theorem outline_step (d : Draft) (line : SourceLine) :
    (d.step line).outline = d.outline.step line (d.readsBeat line) (d.recordsTagged line) := by
  simp only [step]
  cases (Reading.ofLine line.text).comment with
  | none => exact outline_take d _ line
  | some comment => exact outline_take (d.note comment) _ line

end Draft

end Beatsheet

/-
# Beatsheet.Proofs.Draft.Silent — what comments do not change

Comments are collected, passed on and put down, but nothing asks for them, and nothing asks for the
names of snippets, which count the snippets started. So two drafts match if they differ in these
alone and in what only makes comments, the levels of braces and whether a gather merges
(`Draft.Matches`). Of the depth of the braces it matters how far it is above that of the open group.
Drafts that match do so after any line (`Matches.step`).
-/
import Beatsheet.Proofs.Draft.Clear
import Beatsheet.Proofs.Draft.Idle

set_option autoImplicit false

namespace Beatsheet

/-! ## Without comments -/

section Silent

variable {ι κ μ : Type}

def Beat.silent (b : Beat) : Beat :=
  { b with comments := [] }

/-- A snippet without its comments, and with another name. -/
def Snippet.silent (name : κ) (s : Snippet ι) : Snippet κ :=
  { s with id := name, comments := [], braceComments := [], beats := s.beats.map Beat.silent }

def Block.silent (name : κ) (b : Block ι) : Block κ :=
  { b with comments := [], snippets := b.snippets.map (Snippet.silent name) }

/-- A scene without the comments of its blocks, snippets and beats, and with one name for all its
snippets. -/
def Scene.silent (name : κ) (s : Scene ι) : Scene κ :=
  { s with blocks := s.blocks.map (Block.silent name) }

@[simp] theorem Beat.silent_silent (b : Beat) : b.silent.silent = b.silent := rfl

@[simp] theorem Snippet.silent_silent (name : κ) (name' : μ) (s : Snippet ι) :
    (s.silent name).silent name' = s.silent name' := by
  simp [silent]

@[simp] theorem Block.silent_silent (name : κ) (name' : μ) (b : Block ι) :
    (b.silent name).silent name' = b.silent name' := by
  simp [silent]

@[simp] theorem Scene.silent_silent (name : κ) (name' : μ) (s : Scene ι) :
    (s.silent name).silent name' = s.silent name' := by
  simp [silent]

/-- Names do not matter. -/
@[simp] theorem Scene.silent_map (name : μ) (f : Snippet ι → κ) (s : Scene ι) :
    (s.map f).silent name = s.silent name := by
  simp only [Scene.silent, Scene.map, Block.map, Block.silent, List.map_map, Function.comp_def]
  rfl

end Silent

/-- An open snippet without comments and name. It gets its origin and its place in a group when it
is put away. -/
def Snippet.unplaced {ι : Type} (s : Snippet ι) : Snippet Nat :=
  { s.silent 0 with origin := {}, groupIndex := none }

/-- What is open, without comments and names. -/
def Opened.silent (o : Opened) : Opened where
  scene := o.scene.silent 0
  block := o.block.silent 0
  snippet := o.snippet.unplaced

namespace Opened

variable (o : Opened) (index : Nat)

@[simp] theorem closedBlock_silent :
    o.silent.closedBlock index = (o.closedBlock index).silent 0 := by
  have beats : o.silent.snippet.beats = o.snippet.beats.map Beat.silent := rfl
  unfold closedBlock
  rw [beats]
  cases o.snippet.beats with
  | nil => rfl
  | cons beat rest => simp [silent, Block.silent, Snippet.unplaced, Snippet.silent, Beat.silent]

@[simp] theorem closedScene_silent :
    o.silent.closedScene index = (o.closedScene index).silent 0 := by
  have blocks : o.silent.scene.blocks = o.scene.blocks.map (Block.silent 0) := rfl
  have empty : ((o.closedBlock index).silent 0).snippets.isEmpty =
      (o.closedBlock index).snippets.isEmpty := List.isEmpty_map
  rw [closedScene_eq, closedScene_eq, closedBlock_silent, empty, blocks]
  split <;> simp [silent, Scene.silent]

@[simp] theorem newMembers_silent : o.silent.newMembers = o.newMembers := by
  simp [newMembers, silent, Snippet.unplaced, Snippet.silent]

variable {o} {o' : Opened}

theorem silent_congr (scene : o'.scene.silent 0 = o.scene.silent 0)
    (block : o'.block.silent 0 = o.block.silent 0)
    (snippet : o'.snippet.unplaced = o.snippet.unplaced) : o'.silent = o.silent := by
  rw [silent, scene, block, snippet, silent]

theorem scene_congr (same : o'.silent = o.silent) : o'.scene.silent 0 = o.scene.silent 0 :=
  congrArg Opened.scene same

theorem closedBlock_congr (same : o'.silent = o.silent) (index : Nat) :
    (o'.closedBlock index).silent 0 = (o.closedBlock index).silent 0 := by
  rw [← closedBlock_silent, same, closedBlock_silent]

theorem closedScene_congr (same : o'.silent = o.silent) (index : Nat) :
    (o'.closedScene index).silent 0 = (o.closedScene index).silent 0 := by
  rw [← closedScene_silent, same, closedScene_silent]

theorem newMembers_congr (same : o'.silent = o.silent) : o'.newMembers = o.newMembers := by
  rw [← newMembers_silent, same, newMembers_silent]

end Opened

namespace Draft

variable {d e f : Draft}

/-- How many levels of braces are open inside the open group, its own included. -/
def height (d : Draft) : Nat :=
  d.groupDepth.elim 0 fun depth => d.levels.depth - depth + 1

theorem height_push (within : d.Within) (comments : List Text) :
    ({ d with levels := d.levels.push comments, pending := [] } : Draft).height =
      if d.groupDepth.isSome then d.height + 1 else d.height := by
  cases depth : d.groupDepth with
  | none => simp [height, depth]
  | some n =>
      have inside := (within n depth).2
      simp only [height, depth, Option.elim_some, Option.isSome_some, if_true, Levels.depth_push]
      omega

/-- The innermost level is that of the group if it is the only one inside. -/
theorem endsGroup_eq (within : d.Within) : d.endsGroup = (d.height == 1) := by
  cases depth : d.groupDepth with
  | none => simp [endsGroup, height, depth]
  | some n =>
      obtain ⟨pos, inside⟩ := within n depth
      rw [Bool.eq_iff_iff]
      simp only [endsGroup, height, depth, Option.any_some, Option.elim_some, Levels.depth_pop,
        decide_eq_true_eq, beq_iff_eq]
      omega

theorem height_pop (within : d.Within) (goesOn : d.endsGroup = false) :
    ({ d with levels := d.levels.pop } : Draft).height = d.height - 1 := by
  cases depth : d.groupDepth with
  | none => simp [height, depth]
  | some n =>
      obtain ⟨pos, inside⟩ := within n depth
      simp only [endsGroup, depth, Option.any_some, decide_eq_false_iff_not,
        Levels.depth_pop] at goesOn
      simp only [height, depth, Option.elim_some, Levels.depth_pop]
      omega

/-- Two drafts match if they differ in comments and in names only, and in what only makes
comments. -/
structure Matches (d e : Draft) : Prop where
  scenes : e.scenes.map (Scene.silent ()) = d.scenes.map (Scene.silent ())
  opened : e.opened.map Opened.silent = d.opened.map Opened.silent
  taggedLines : e.taggedLines = d.taggedLines
  diagnostics : e.diagnostics = d.diagnostics
  group : e.groupDepth.isSome = d.groupDepth.isSome
  height : e.height = d.height
  groups : e.groups = d.groups
  members : e.members = d.members
  cascade : e.cascade = d.cascade

/-- To be counted is the same with and without comments. -/
theorem silent_counted (d : Draft) (s : Snippet Nat) :
    (d.counted s).silent 0 = d.counted (s.silent 0) := by
  have group : (s.silent 0).group = s.group := rfl
  rw [counted, counted, group]
  split <;> rfl

namespace Matches

theorem refl (d : Draft) : d.Matches d :=
  ⟨rfl, rfl, rfl, rfl, rfl, rfl, rfl, rfl, rfl⟩

theorem symm (same : d.Matches e) : e.Matches d :=
  ⟨same.scenes.symm, same.opened.symm, same.taggedLines.symm, same.diagnostics.symm,
    same.group.symm, same.height.symm, same.groups.symm, same.members.symm, same.cascade.symm⟩

theorem trans (first : d.Matches e) (second : e.Matches f) : d.Matches f :=
  ⟨second.scenes.trans first.scenes, second.opened.trans first.opened,
    second.taggedLines.trans first.taggedLines, second.diagnostics.trans first.diagnostics,
    second.group.trans first.group, second.height.trans first.height,
    second.groups.trans first.groups, second.members.trans first.members,
    second.cascade.trans first.cascade⟩

theorem opened_cases (same : d.Matches e) :
    (d.opened = none ∧ e.opened = none) ∨
      ∃ o o', d.opened = some o ∧ e.opened = some o' ∧ o'.silent = o.silent := by
  have opened := same.opened
  cases was : d.opened with
  | none =>
      cases now : e.opened with
      | none => exact .inl ⟨rfl, rfl⟩
      | some o' => simp [was, now] at opened
  | some o =>
      cases now : e.opened with
      | none => simp [was, now] at opened
      | some o' =>
          rw [was, now] at opened
          exact .inr ⟨o, o', rfl, rfl, Option.some.inj opened⟩

theorem isSome_opened (same : d.Matches e) : e.opened.isSome = d.opened.isSome := by
  rw [← Option.isSome_map (f := Opened.silent), same.opened, Option.isSome_map]

end Matches

section Matches

variable (d : Draft)

theorem matches_note (comment : Text) : d.Matches (d.note comment) :=
  { Matches.refl d with }

theorem matches_pending (pending : List Text) : d.Matches { d with pending } :=
  { Matches.refl d with }

theorem matches_merging (merging : Bool) : d.Matches { d with merging } :=
  { Matches.refl d with }

end Matches

namespace Matches

/-! ## Operations on matching drafts -/

theorem emit (same : d.Matches e) {event event' : Event}
    (loud : event'.diagnostic? = event.diagnostic?) : (d.emit event).Matches (e.emit event') := by
  have diagnostics : (e.emit event').diagnostics = (d.emit event).diagnostics := by
    rw [diagnostics_emit, diagnostics_emit, same.diagnostics, loud]
  exact { same with diagnostics }

theorem complain (same : d.Matches e) (c : Complaint) (origin : Origin) :
    (d.complain c origin).Matches (e.complain c origin) :=
  same.emit rfl

theorem boundary (same : d.Matches e) : d.boundary.Matches e.boundary := by
  rcases same.opened_cases with ⟨none_, none'⟩ | ⟨o, o', some_, some', silent⟩
  · rw [boundary_of_none none_, boundary_of_none none']
    exact { same with }
  · have scene := Opened.scene_congr silent
    have block := Opened.closedBlock_congr silent d.members
    have members := congrArg (d.members + ·) (Opened.newMembers_congr silent)
    simp only [Draft.boundary, some_, some', same.members]
    exact { same with
      opened := congrArg some (Opened.silent_congr scene block rfl)
      members }

theorem countGroup (same : d.Matches e) : d.countGroup.Matches e.countGroup := by
  have counted : e.counted = d.counted := by
    funext s
    rw [Draft.counted, Draft.counted, same.groups, same.members]
  have opened : e.countGroup.opened.map Opened.silent = d.countGroup.opened.map Opened.silent := by
    rw [opened_countGroup, opened_countGroup, counted]
    rcases same.opened_cases with ⟨none_, none'⟩ | ⟨o, o', some_, some', silent⟩
    · rw [none_, none']
    · have scene := Opened.scene_congr silent
      have block := congrArg
        (fun b : Block Nat => { b with snippets := b.snippets.map d.counted })
        (congrArg Opened.block silent)
      have snippet := congrArg Opened.snippet silent
      simp only [Opened.silent, Block.silent, List.map_map, Function.comp_def,
        ← silent_counted] at block
      rw [some_, some']
      refine congrArg some (Opened.silent_congr scene ?_ snippet)
      simpa [Block.silent, Function.comp_def] using block
  exact { same with opened }

/-! ## Braces -/

theorem openLevel (same : d.Matches e) (within : d.Within) (within' : e.Within) (group : Bool) :
    (d.openLevel group).Matches (e.openLevel group) := by
  have isNone : e.groupDepth.isNone = d.groupDepth.isNone := by
    rw [← Option.not_isSome, same.group, Option.not_isSome]
  unfold Draft.openLevel
  dsimp only
  rw [isNone]
  refine Matches.boundary ?_
  split
  · have begun : e.groups + 1 = d.groups + 1 := congrArg (· + 1) same.groups
    refine Matches.emit ?_ rfl
    exact { same with
      group := rfl
      height := by simp [Draft.height]
      groups := begun
      members := rfl }
  · have height : ({ e with levels := e.levels.push e.pending, pending := [] } : Draft).height =
        ({ d with levels := d.levels.push d.pending, pending := [] } : Draft).height := by
      rw [height_push within', height_push within, same.group, same.height]
    exact { same with height }

theorem closeLevel (same : d.Matches e) (within : d.Within) (within' : e.Within) :
    d.closeLevel.Matches e.closeLevel := by
  have ends : e.endsGroup = d.endsGroup := by
    rw [endsGroup_eq within', endsGroup_eq within, same.height]
  have endsGroup_ : ∀ d : Draft, d.groupDepth.any (d.levels.pop.depth < ·) = d.endsGroup :=
    fun _ => rfl
  unfold Draft.closeLevel
  dsimp only
  rw [endsGroup_, endsGroup_, ends]
  split
  · have shut : (({ d with groupDepth := none, merging := true } : Draft).note mergeMark).Matches
        (({ e with groupDepth := none, merging := true } : Draft).note mergeMark) :=
      { same with group := rfl, height := rfl }
    have quiet : (Event.groupClosed e.groups).diagnostic? =
        (Event.groupClosed d.groups).diagnostic? := rfl
    have told := shut.emit quiet
    refine (Matches.boundary ?_).countGroup
    exact { told with height := rfl }
  · rename_i goesOn
    have goesOn : d.endsGroup = false := eq_false_of_ne_true goesOn
    have height : ({ e with levels := e.levels.pop } : Draft).height =
        ({ d with levels := d.levels.pop } : Draft).height := by
      rw [height_pop within' (ends.trans goesOn), height_pop within goesOn, same.height]
    refine Matches.boundary ?_
    exact { same with height }

theorem boundaryKeeping (same : d.Matches e) : d.boundaryKeeping.Matches e.boundaryKeeping := by
  have emptied : ({ d with pending := [] } : Draft).Matches { e with pending := [] } :=
    { same with }
  exact { emptied.boundary with }

/-! ## Headers -/

theorem close (same : d.Matches e) : d.close.Matches e.close := by
  rcases same.opened_cases with ⟨none_, none'⟩ | ⟨o, o', some_, some', silent⟩
  · simpa only [Draft.close, none_, none'] using same
  · have scene := Opened.closedScene_congr silent d.members
    have named : (o'.closedScene d.members).silent () = (o.closedScene d.members).silent () := by
      simpa using congrArg (Scene.silent ()) scene
    have empty : (o'.closedScene d.members).blocks.isEmpty =
        (o.closedScene d.members).blocks.isEmpty := by
      simpa [Scene.silent] using congrArg (fun s : Scene Nat => s.blocks.isEmpty) scene
    have members := congrArg (d.members + ·) (Opened.newMembers_congr silent)
    have scenes := same.scenes
    simp only [Draft.close, some_, some', same.members, empty]
    refine { same with scenes := ?_, opened := rfl, members }
    split
    · exact scenes
    · rw [List.map_append, List.map_append, scenes, List.map_singleton, List.map_singleton, named]

theorem beginScene (same : d.Matches e) (id : Text) (origin : Origin) :
    (d.beginScene id origin).Matches (e.beginScene id origin) := by
  have begun : ({ d.close with cascade := d.cascade.beginScene } : Draft).Matches
      { e.close with cascade := e.cascade.beginScene } :=
    { same.close with cascade := congrArg Cascade.beginScene same.cascade }
  have quiet : (Event.sceneBegun id).diagnostic? = (Event.sceneBegun id).diagnostic? := rfl
  exact { begun.emit quiet with opened := rfl }

theorem beginBlock (same : d.Matches e) (id : Text) (origin : Origin) :
    (d.beginBlock id origin).Matches (e.beginBlock id origin) := by
  have begun : ({ d with cascade := d.cascade.beginBlock } : Draft).Matches
      { e with cascade := e.cascade.beginBlock } :=
    { same with cascade := congrArg Cascade.beginBlock same.cascade }
  have quiet : (Event.blockBegun id).diagnostic? = (Event.blockBegun id).diagnostic? := rfl
  have told := begun.emit quiet
  rcases same.opened_cases with ⟨none_, none'⟩ | ⟨o, o', some_, some', silent⟩
  · simp only [Draft.beginBlock, Draft.emit, none_, none']
    exact { told with opened := rfl }
  · have scene := Opened.closedScene_congr silent d.members
    have members := congrArg (d.members + ·) (Opened.newMembers_congr silent)
    simp only [Draft.beginBlock, Draft.emit, some_, some', same.members]
    exact { told with
      opened := congrArg some (Opened.silent_congr scene rfl rfl)
      members }

/-! ## Beats -/

theorem addBeat (same : d.Matches e) {o o' : Opened} (opened : d.opened = some o)
    (opened' : e.opened = some o') (beat : Beat) :
    (d.addBeat o beat).Matches (e.addBeat o' beat) := by
  have silent : o'.silent = o.silent := by
    have both := same.opened
    rw [opened, opened'] at both
    exact Option.some.inj both
  -- The snippets that the beat comes into, and the beat with what it takes and inherits.
  let added (d : Draft) : Beat :=
    { beat with comments := d.pending, tags := d.cascade.apply beat.tags }
  let snippet (d : Draft) (o : Opened) : Snippet Nat :=
    { o.snippet with
      group := if d.groupDepth.isSome then some d.groups else o.snippet.group
      beats := o.snippet.beats ++ [added d] }
  have unplaced : (snippet e o').unplaced = (snippet d o).unplaced := by
    have old : o'.snippet.unplaced = o.snippet.unplaced := congrArg Opened.snippet silent
    simp only [Snippet.unplaced, Snippet.silent, Snippet.mk.injEq] at old
    simp [snippet, added, Snippet.unplaced, Snippet.silent, Beat.silent, old, same.group,
      same.groups, same.cascade]
  have scene := Opened.scene_congr silent
  have block := congrArg Opened.block silent
  have told : ({ d with
        opened := some { o with snippet := snippet d o }, pending := [] } : Draft).Matches
      { e with opened := some { o' with snippet := snippet e o' }, pending := [] } :=
    { same with opened := congrArg some (Opened.silent_congr scene block unplaced) }
  have quiet : (Event.beatRead (added e)).diagnostic? = (Event.beatRead (added d)).diagnostic? :=
    rfl
  have read := told.emit quiet
  unfold Draft.addBeat
  dsimp only
  split
  · exact read.complain _ _
  · exact read

theorem passBy (same : d.Matches e) (origin : Origin) (tagged : Option Tagged) :
    (d.passBy origin tagged).Matches (e.passBy origin tagged) := by
  unfold Draft.passBy
  cases tagged with
  | none => exact { same with }
  | some t =>
      have taggedLines :
          e.taggedLines ++ [(⟨t.id, e.cascade.apply t.tags, origin⟩ : TaggedLine)] =
            d.taggedLines ++ [⟨t.id, d.cascade.apply t.tags, origin⟩] := by
        rw [same.taggedLines, same.cascade]
      refine Matches.emit ?_ rfl
      exact { same with taggedLines }

theorem kept : Kept Matches where
  cascade same := same.cascade
  opened same := same.isSome_opened
  complain same := same.complain
  note same _ := { same with }
  passBy same := same.passBy
  emit same _ := same.emit rfl
  recast same _ := { same with cascade := rfl }
  boundary same := same.boundary
  beginScene same := same.beginScene
  beginBlock same := same.beginBlock
  addBeat same := same.addBeat

/-! ## Lines -/

theorem turn (same : d.Matches e) (within : d.Within) (within' : e.Within) (turn : Turn) :
    (d.turn turn).Matches (e.turn turn) := by
  cases turn with
  | opening group => exact same.openLevel within within' group
  | closing => exact same.closeLevel within within'
  | speech =>
      have active : e.cascade.active = d.cascade.active := congrArg Cascade.active same.cascade
      simp only [Draft.turn, active]
      split
      · exact same.boundaryKeeping
      · exact Matches.boundary { same with }
  | choice text => exact Matches.boundary { same with }
  | gather =>
      -- The mark of a merge may be made on one side only; it is a comment.
      simp only [Draft.turn]
      split <;> split <;> exact Matches.boundary { same with }
  | other => exact Matches.boundary { same with }

theorem take (same : d.Matches e) (within : d.Within) (within' : e.Within) (line : Text)
    (origin : Origin) (kind : Kind) :
    (d.take line origin kind).Matches (e.take line origin kind) := by
  refine kept.take same line origin kind fun cascade turn => ?_
  have recast : ({ d with cascade } : Draft).Matches { e with cascade } := kept.recast same cascade
  exact recast.turn within within' turn

/-- **A line does the same to drafts that match.** -/
theorem step (same : d.Matches e) (within : d.Within) (within' : e.Within) (line : SourceLine) :
    (d.step line).Matches (e.step line) := by
  unfold Draft.step
  dsimp only
  cases (Reading.ofLine line.text).comment with
  | none => exact same.take within within' _ _ _
  | some comment =>
      have noted : (d.note comment).Matches (e.note comment) := { same with }
      exact noted.take within within' _ _ _

end Matches

/-! ## Runs -/

theorem Within.step (within : d.Within) (line : SourceLine) : (d.step line).Within :=
  within.moves (Moves.step d line)

theorem Matches.foldl_step (same : d.Matches e) (within : d.Within) (within' : e.Within)
    (lines : List SourceLine) : (lines.foldl Draft.step d).Matches (lines.foldl Draft.step e) := by
  induction lines generalizing d e with
  | nil => exact same
  | cons line rest ih =>
      exact ih (same.step within within' line) (within.step line) (within'.step line)

end Draft

end Beatsheet

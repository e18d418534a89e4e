/-
# Beatsheet.Proofs.Draft.Gain — one comment more

A draft with one comment more that is pending stays the same as the draft without it, whatever lines
follow, but for that comment in some of its lists of comments (`Draft.Gains`). On its way the
comment is pending, or the open snippet has it and may hand it on, or a level of braces keeps it for
the snippets inside. It is in one of these places at most (`Draft.Underway`), and so no list gets it
twice; this is what has to be shown of each operation, and then it holds for every line
(`Gains.step`).
-/
import Beatsheet.Proofs.Draft.Level
import Beatsheet.Proofs.Draft.Prose
import Beatsheet.Proofs.Forest.Gain

set_option autoImplicit false

namespace Beatsheet

/-! ## What is open -/

/-- What is open is the same, but for one comment more at most in each list of comments. -/
structure Opened.Gains (x : Text) (o o' : Opened) : Prop where
  scene : o.scene.Gains x o'.scene
  block : o.block.Gains x o'.block
  snippet : o.snippet.Gains x o'.snippet

namespace Opened.Gains

variable {x : Text} {o o' : Opened}

theorem refl (o : Opened) : o.Gains x o := ⟨.refl _, .refl _, .refl _⟩

theorem closedBlock (gains : o.Gains x o') (index : Nat) :
    (o.closedBlock index).Gains x (o'.closedBlock index) := by
  have beats := gains.snippet.beats
  unfold Opened.closedBlock
  cases first : o.snippet.beats with
  | nil =>
      rw [first, List.forall₂_nil_left_iff] at beats
      rw [beats]
      exact gains.block
  | cons beat rest =>
      rw [first, List.forall₂_cons_left_iff] at beats
      obtain ⟨beat', rest', gained, -, second⟩ := beats
      rw [second]
      have origin : beat'.origin = beat.origin := by rw [gained.same]
      have put : ({ o.snippet with
            origin := beat.origin
            groupIndex := o.snippet.group.map fun _ => index } : Snippet Nat).Gains x
          { o'.snippet with
            origin := beat'.origin
            groupIndex := o'.snippet.group.map fun _ => index } :=
        { gains.snippet with groupIndex := by rw [gains.snippet.group], origin }
      exact { gains.block with
        snippets := List.rel_append gains.block.snippets (.cons put .nil) }

theorem closedScene (gains : o.Gains x o') (index : Nat) :
    (o.closedScene index).Gains x (o'.closedScene index) := by
  have block := gains.closedBlock index
  rw [closedScene_eq, closedScene_eq, isEmpty_of_forall₂ block.snippets]
  refine { gains.scene with blocks := List.rel_append gains.scene.blocks ?_ }
  split
  · exact .nil
  · exact .cons block .nil

theorem newMembers (gains : o.Gains x o') : o'.newMembers = o.newMembers := by
  rw [Opened.newMembers, Opened.newMembers, isEmpty_of_forall₂ gains.snippet.beats,
    gains.snippet.group]

end Opened.Gains

namespace Draft

variable {x : Text} {d e : Draft}

/-! ## Drafts -/

/-- The comments that the next snippet takes over from the open one. -/
def carried (d : Draft) : List Text :=
  d.opened.elim [] Opened.carried

/-- The comment more that is on its way is in one place at most. -/
def Underway (x : Text) (d e : Draft) : Prop :=
  ∃ i j k, i + j + k ≤ 1 ∧ Gained x i d.carried e.carried ∧ Gained x j d.pending e.pending ∧
    AllGained x k d.levels.stack e.levels.stack

/-- The second draft is the first one, but for one comment more at most in each list of comments. -/
structure Gains (x : Text) (d e : Draft) : Prop where
  scenes : List.Forall₂ (Scene.Gains x) d.scenes e.scenes
  opened : Option.Rel (Opened.Gains x) d.opened e.opened
  underway : Underway x d e
  stacked : d.levels.Stacked
  stacked' : e.levels.Stacked
  taggedLines : e.taggedLines = d.taggedLines
  diagnostics : e.diagnostics = d.diagnostics
  groupDepth : e.groupDepth = d.groupDepth
  groups : e.groups = d.groups
  members : e.members = d.members
  merging : e.merging = d.merging
  cascade : e.cascade = d.cascade
  started : e.started = d.started

/-- A comment that is noted is one comment more. -/
theorem gains_note (stacked : d.levels.Stacked) (x : Text) : d.Gains x (d.note x) where
  scenes := List.forall₂_same.mpr fun s _ => .refl s
  opened := by
    show Option.Rel (Opened.Gains x) d.opened d.opened
    cases d.opened with
    | none => exact .none
    | some o => exact .some (.refl o)
  underway := ⟨0, 1, 0, Nat.le_refl 1, .refl _,
    by simpa [note] using (Gained.refl d.pending).append (.more .nil), .refl _⟩
  stacked
  stacked' := stacked
  taggedLines := rfl
  diagnostics := rfl
  groupDepth := rfl
  groups := rfl
  members := rfl
  merging := rfl
  cascade := rfl
  started := rfl

namespace Gains

theorem opened_cases (gains : d.Gains x e) :
    (d.opened = none ∧ e.opened = none) ∨
      ∃ o o', d.opened = some o ∧ e.opened = some o' ∧ o.Gains x o' := by
  have opened := gains.opened
  generalize d.opened = was at opened
  generalize e.opened = now at opened
  cases opened with
  | none => exact .inl ⟨rfl, rfl⟩
  | some open_ => exact .inr ⟨_, _, rfl, rfl, open_⟩

theorem isSome_opened (gains : d.Gains x e) : e.opened.isSome = d.opened.isSome := by
  rcases gains.opened_cases with ⟨was, now⟩ | ⟨o, o', was, now, -⟩
  · rw [was, now]
  · rw [was, now]
    rfl

theorem depth (gains : d.Gains x e) : e.levels.depth = d.levels.depth := by
  obtain ⟨_, _, _, _, _, _, stack⟩ := gains.underway
  have same := stack.length_eq
  rw [gains.stacked'.depth, gains.stacked.depth]
  simpa [Levels.stack] using same

/-- What is pending can be put down. -/
theorem pending (gains : d.Gains x e) : MayGain x d.pending e.pending := by
  obtain ⟨i, j, k, once, -, waits, -⟩ := gains.underway
  exact mayGain_of_gained waits (by omega)

theorem braceComments (gains : d.Gains x e) : MayGain x d.levels.comments e.levels.comments := by
  obtain ⟨i, j, k, once, -, -, stack⟩ := gains.underway
  rw [gains.stacked.comments_eq, gains.stacked'.comments_eq]
  exact mayGain_of_gained stack.flatten (by omega)

theorem freshSnippet (gains : d.Gains x e) {comments comments' : List Text}
    (may : MayGain x comments comments') :
    (d.freshSnippet comments).Gains x (e.freshSnippet comments') :=
  ⟨gains.started, rfl, rfl, rfl, rfl, may, gains.braceComments, .nil⟩

/-! ## Operations -/

theorem carried_boundaryKeeping (d : Draft) : d.boundaryKeeping.carried = d.carried := by
  unfold Draft.boundaryKeeping Draft.boundary Draft.carried
  cases d.opened with
  | none => rfl
  | some o => simp [Opened.carried, Draft.freshSnippet]

theorem carried_countGroup (d : Draft) : d.countGroup.carried = d.carried := by
  rw [Draft.carried, opened_countGroup, Draft.carried]
  cases d.opened <;> rfl

theorem emit (gains : d.Gains x e) {event event' : Event}
    (loud : event'.diagnostic? = event.diagnostic?) : (d.emit event).Gains x (e.emit event') := by
  have diagnostics : (e.emit event').diagnostics = (d.emit event).diagnostics := by
    rw [diagnostics_emit, diagnostics_emit, gains.diagnostics, loud]
  exact { gains with diagnostics }

theorem complain (gains : d.Gains x e) (c : Complaint) (origin : Origin) :
    (d.complain c origin).Gains x (e.complain c origin) :=
  gains.emit rfl

theorem note (gains : d.Gains x e) (comment : Text) :
    (d.note comment).Gains x (e.note comment) := by
  obtain ⟨i, j, k, once, carried, waits, stack⟩ := gains.underway
  exact { gains with
    underway := ⟨i, j, k, once, carried, waits.append (.refl [comment]), stack⟩ }

theorem passBy (gains : d.Gains x e) (origin : Origin) (tagged : Option Tagged) :
    (d.passBy origin tagged).Gains x (e.passBy origin tagged) := by
  obtain ⟨i, j, k, once, carried, -, stack⟩ := gains.underway
  have underway : Underway x { d with pending := [] } { e with pending := [] } :=
    ⟨i, 0, k, by omega, carried, .nil, stack⟩
  have lost : ({ d with pending := [] } : Draft).Gains x { e with pending := [] } :=
    { gains with underway }
  unfold Draft.passBy
  cases tagged with
  | none => exact lost
  | some t =>
      have taggedLines :
          e.taggedLines ++ [(⟨t.id, e.cascade.apply t.tags, origin⟩ : TaggedLine)] =
            d.taggedLines ++ [⟨t.id, d.cascade.apply t.tags, origin⟩] := by
        rw [gains.taggedLines, gains.cascade]
      refine Gains.emit ?_ rfl
      exact { lost with taggedLines }

theorem boundary (gains : d.Gains x e) : d.boundary.Gains x e.boundary := by
  obtain ⟨i, j, k, once, carried, waits, stack⟩ := gains.underway
  rcases gains.opened_cases with ⟨was, now⟩ | ⟨o, o', was, now, open_⟩
  · have underway : Underway x { d with pending := [] } { e with pending := [] } :=
      ⟨i, 0, k, by omega, carried, .nil, stack⟩
    rw [boundary_of_none was, boundary_of_none now]
    exact { gains with underway }
  · rw [Draft.carried, Draft.carried, was, now] at carried
    have taken : Gained x (i + j) (o.carried ++ d.pending) (o'.carried ++ e.pending) :=
      carried.append waits
    have fresh := gains.freshSnippet (mayGain_of_gained taken (by omega))
    have block := open_.closedBlock d.members
    have members := congrArg (d.members + ·) open_.newMembers
    have started := congrArg (· + 1) gains.started
    simp only [Draft.boundary, was, now, gains.members]
    exact { gains with
      opened := .some ⟨open_.scene, block, fresh⟩
      underway := ⟨i + j, 0, k, once, taken, .nil, stack⟩
      members
      started }

theorem boundaryKeeping (gains : d.Gains x e) : d.boundaryKeeping.Gains x e.boundaryKeeping := by
  obtain ⟨i, j, k, once, carried, waits, stack⟩ := gains.underway
  have emptied : ({ d with pending := [] } : Draft).Gains x { e with pending := [] } :=
    { gains with underway := ⟨i, 0, k, by omega, carried, .nil, stack⟩ }
  have underway : Underway x d.boundaryKeeping e.boundaryKeeping := by
    refine ⟨i, j, k, once, ?_, waits, ?_⟩
    · rwa [carried_boundaryKeeping, carried_boundaryKeeping]
    · simpa [Draft.boundaryKeeping] using stack
  exact { emptied.boundary with underway }

theorem counted (gains : d.Gains x e) {s t : Snippet Nat} (snippet : s.Gains x t) :
    (d.counted s).Gains x (e.counted t) := by
  have last : (t.group == some e.groups) = (s.group == some d.groups) := by
    rw [snippet.group, gains.groups]
  rw [Draft.counted, Draft.counted, last]
  split
  · exact { snippet with groupCount := congrArg some gains.members }
  · exact snippet

theorem countGroup (gains : d.Gains x e) : d.countGroup.Gains x e.countGroup := by
  have underway : Underway x d.countGroup e.countGroup := by
    have before := gains.underway
    rwa [Underway, ← carried_countGroup d, ← carried_countGroup e] at before
  rcases gains.opened_cases with ⟨was, now⟩ | ⟨o, o', was, now, open_⟩
  · have opened : Option.Rel (Opened.Gains x) d.countGroup.opened e.countGroup.opened := by
      rw [opened_countGroup, opened_countGroup, was, now]
      exact .none
    exact { gains with opened, underway }
  · have block : ({ o.block with snippets := o.block.snippets.map d.counted } : Block Nat).Gains x
        { o'.block with snippets := o'.block.snippets.map e.counted } := by
      refine { open_.block with snippets := ?_ }
      exact List.rel_map (fun s t snippet => gains.counted snippet) open_.block.snippets
    have opened : Option.Rel (Opened.Gains x) d.countGroup.opened e.countGroup.opened := by
      rw [opened_countGroup, opened_countGroup, was, now]
      exact .some { open_ with block }
    exact { gains with opened, underway }

theorem openLevel (gains : d.Gains x e) (group : Bool) :
    (d.openLevel group).Gains x (e.openLevel group) := by
  obtain ⟨i, j, k, once, carried, waits, stack⟩ := gains.underway
  have pushed : ({ d with levels := d.levels.push d.pending, pending := [] } : Draft).Gains x
      { e with levels := e.levels.push e.pending, pending := [] } := by
    have underway : Underway x { d with levels := d.levels.push d.pending, pending := [] }
        { e with levels := e.levels.push e.pending, pending := [] } := by
      refine ⟨i, 0, j + k, by omega, carried, .nil, ?_⟩
      rw [Levels.stack_push, Levels.stack_push]
      exact .cons waits stack
    exact { gains with
      underway
      stacked := gains.stacked.push _
      stacked' := gains.stacked'.push _ }
  have depth := congrArg some pushed.depth
  have begun := congrArg (· + 1) gains.groups
  have begins : (group && e.groupDepth.isNone) = (group && d.groupDepth.isNone) := by
    rw [gains.groupDepth]
  unfold Draft.openLevel
  dsimp only
  rw [begins]
  refine Gains.boundary ?_
  split
  · refine Gains.emit ?_ rfl
    exact { pushed with groupDepth := depth, groups := begun, members := rfl }
  · exact pushed

theorem closeLevel (gains : d.Gains x e) : d.closeLevel.Gains x e.closeLevel := by
  obtain ⟨i, j, k, once, carried, waits, stack⟩ := gains.underway
  obtain ⟨k', le, stack'⟩ := stack.tail
  rw [← Levels.stack_pop gains.stacked, ← Levels.stack_pop gains.stacked'] at stack'
  have popped : ({ d with levels := d.levels.pop } : Draft).Gains x
      { e with levels := e.levels.pop } :=
    { gains with
      underway := ⟨i, j, k', by omega, carried, waits, stack'⟩
      stacked := gains.stacked.pop
      stacked' := gains.stacked'.pop }
  have ends : e.groupDepth.any (e.levels.pop.depth < ·) =
      d.groupDepth.any (d.levels.pop.depth < ·) := by
    rw [gains.groupDepth, popped.depth]
  unfold Draft.closeLevel
  dsimp only
  rw [ends]
  split
  · have shut : Gains x { d with levels := d.levels.pop, groupDepth := none, merging := true }
        { e with levels := e.levels.pop, groupDepth := none, merging := true } :=
      { popped with groupDepth := rfl, merging := rfl }
    have quiet : (Event.groupClosed e.groups).diagnostic? =
        (Event.groupClosed d.groups).diagnostic? := rfl
    exact ((shut.note mergeMark).emit quiet).boundary.countGroup
  · exact popped.boundary

/-! ## Headers -/

theorem close (gains : d.Gains x e) : d.close.Gains x e.close := by
  obtain ⟨i, j, k, once, carried, waits, stack⟩ := gains.underway
  rcases gains.opened_cases with ⟨was, now⟩ | ⟨o, o', was, now, open_⟩
  · simpa only [Draft.close, was, now] using gains
  · have scene := open_.closedScene d.members
    have members := congrArg (d.members + ·) open_.newMembers
    have empty := isEmpty_of_forall₂ scene.blocks
    have scenes := gains.scenes
    simp only [Draft.close, was, now, gains.members, empty]
    refine { gains with
      scenes := ?_
      opened := .none
      underway := ⟨0, j, k, by omega, .nil, waits, stack⟩
      members }
    split
    · exact scenes
    · exact List.rel_append scenes (.cons scene .nil)

theorem beginScene (gains : d.Gains x e) (id : Text) (origin : Origin) :
    (d.beginScene id origin).Gains x (e.beginScene id origin) := by
  have begun : ({ d.close with cascade := d.cascade.beginScene } : Draft).Gains x
      { e.close with cascade := e.cascade.beginScene } :=
    { gains.close with cascade := congrArg Cascade.beginScene gains.cascade }
  have quiet : (Event.sceneBegun id).diagnostic? = (Event.sceneBegun id).diagnostic? := rfl
  have told := begun.emit quiet
  obtain ⟨i, j, k, once, -, -, stack⟩ := told.underway
  have started := congrArg (· + 1) told.started
  exact { told with
    opened := .some ⟨.refl _, ⟨rfl, rfl, told.pending, .nil⟩, told.freshSnippet (.refl [])⟩
    underway := ⟨0, 0, k, by omega, .nil, .nil, stack⟩
    started }

theorem beginBlock (gains : d.Gains x e) (id : Text) (origin : Origin) :
    (d.beginBlock id origin).Gains x (e.beginBlock id origin) := by
  have begun : ({ d with cascade := d.cascade.beginBlock } : Draft).Gains x
      { e with cascade := e.cascade.beginBlock } :=
    { gains with cascade := congrArg Cascade.beginBlock gains.cascade }
  have quiet : (Event.blockBegun id).diagnostic? = (Event.blockBegun id).diagnostic? := rfl
  have told := begun.emit quiet
  obtain ⟨i, j, k, once, carried, -, stack⟩ := told.underway
  rcases gains.opened_cases with ⟨was, now⟩ | ⟨o, o', was, now, open_⟩
  · simp only [Draft.beginBlock, Draft.emit, was, now]
    exact { told with
      opened := .none
      underway := ⟨0, 0, k, by omega, .nil, .nil, stack⟩ }
  · have scene := open_.closedScene d.members
    have members := congrArg (d.members + ·) open_.newMembers
    have started := congrArg (· + 1) told.started
    have fresh := told.freshSnippet (.refl [])
    simp only [Draft.beginBlock, Draft.emit, was, now, gains.members]
    exact { told with
      opened := .some ⟨scene, ⟨rfl, rfl, told.pending, .nil⟩, fresh⟩
      underway := ⟨0, 0, k, by omega, .nil, .nil, stack⟩
      members
      started }

/-! ## Beats -/

theorem addBeat (gains : d.Gains x e) {o o' : Opened} (opened : d.opened = some o)
    (opened' : e.opened = some o') (beat : Beat) :
    (d.addBeat o beat).Gains x (e.addBeat o' beat) := by
  obtain ⟨i, j, k, once, -, -, stack⟩ := gains.underway
  have open_ : o.Gains x o' := by
    have both := gains.opened
    rw [opened, opened'] at both
    cases both with
    | some open_ => exact open_
  -- The snippets that the beat comes into, and the beat with what it takes and inherits.
  let added (d : Draft) : Beat :=
    { beat with comments := d.pending, tags := d.cascade.apply beat.tags }
  let snippet (d : Draft) (o : Opened) : Snippet Nat :=
    { o.snippet with
      group := if d.groupDepth.isSome then some d.groups else o.snippet.group
      beats := o.snippet.beats ++ [added d] }
  have taken : (added d).Gains x (added e) := ⟨by simp only [added, gains.cascade], gains.pending⟩
  have grown : (snippet d o).Gains x (snippet e o') :=
    { open_.snippet with
      group := by simp only [snippet, gains.groupDepth, gains.groups, open_.snippet.group]
      beats := List.rel_append open_.snippet.beats (.cons taken .nil) }
  have kept : ∀ (d : Draft) (o : Opened),
      ({ o with snippet := snippet d o } : Opened).carried = [] := by
    intro d o
    simp [Opened.carried, snippet]
  have told : ({ d with
        opened := some { o with snippet := snippet d o }, pending := [] } : Draft).Gains x
      { e with opened := some { o' with snippet := snippet e o' }, pending := [] } := by
    refine { gains with
      opened := .some ⟨open_.scene, open_.block, grown⟩
      underway := ⟨0, 0, k, by omega, ?_, .nil, stack⟩ }
    simp only [Draft.carried, Option.elim_some, kept]
    exact .nil
  have quiet : (Event.beatRead (added e)).diagnostic? = (Event.beatRead (added d)).diagnostic? :=
    rfl
  have read := told.emit quiet
  unfold Draft.addBeat
  dsimp only
  split
  · exact read.complain _ _
  · exact read

theorem kept (x : Text) : Kept (Gains x) where
  cascade gains := gains.cascade
  opened gains := gains.isSome_opened
  complain gains := gains.complain
  note gains := gains.note
  passBy gains := gains.passBy
  emit gains _ := gains.emit rfl
  recast gains _ := { gains with cascade := rfl }
  boundary gains := gains.boundary
  beginScene gains := gains.beginScene
  beginBlock gains := gains.beginBlock
  addBeat gains := gains.addBeat

/-! ## Lines -/

theorem turn (gains : d.Gains x e) (turn : Turn) : (d.turn turn).Gains x (e.turn turn) := by
  have quiet : ∀ merging, ({ d with merging } : Draft).Gains x { e with merging } :=
    fun _ => { gains with merging := rfl }
  cases turn with
  | opening group => exact gains.openLevel group
  | closing => exact gains.closeLevel
  | speech =>
      have active : e.cascade.active = d.cascade.active := congrArg Cascade.active gains.cascade
      simp only [Draft.turn, active]
      split
      · exact gains.boundaryKeeping
      · exact (quiet false).boundary
  | choice text => exact ((quiet true).note _).boundary
  | gather =>
      simp only [Draft.turn, gains.merging]
      split
      · exact ((quiet false).note _).boundary
      · exact gains.boundary
  | other => exact (quiet false).boundary

theorem take (gains : d.Gains x e) (line : Text) (origin : Origin) (kind : Kind) :
    (d.take line origin kind).Gains x (e.take line origin kind) := by
  refine (kept x).take gains line origin kind fun cascade turn => ?_
  have recast : ({ d with cascade } : Draft).Gains x { e with cascade } :=
    (kept x).recast gains cascade
  exact recast.turn turn

/-- **A line passes on what one draft has more, and adds nothing to it.** -/
theorem step (gains : d.Gains x e) (line : SourceLine) : (d.step line).Gains x (e.step line) := by
  unfold Draft.step
  dsimp only
  cases (Reading.ofLine line.text).comment with
  | none => exact gains.take _ _ _
  | some comment => exact (gains.note comment).take _ _ _

theorem foldl_step (gains : d.Gains x e) (lines : List SourceLine) :
    (lines.foldl Draft.step d).Gains x (lines.foldl Draft.step e) := by
  induction lines generalizing d e with
  | nil => exact gains
  | cons line rest ih => exact ih (gains.step line)

end Gains

end Draft

end Beatsheet

/-
# Beatsheet.Proofs.Draft.Parted — boundaries that come early

A boundary puts the open snippet away, and so will the next turn of the flow, the next header or the
end of the script. So it makes no difference if the snippet is put away at once, unless it holds
beats and another one was still to come into it (`Draft.parts`, `foldl_boundary`).

As long as neither comes, one draft is a boundary ahead of the other (`boundary_step`); the line
that ends the snippet makes up for it (`matches_step_boundary`).
-/
import Beatsheet.Proofs.Draft.Cut
import Beatsheet.Proofs.Draft.Early
import Beatsheet.Proofs.Draft.Header

set_option autoImplicit false

namespace Beatsheet

namespace Draft

variable {d e : Draft} {line : SourceLine} {lines : List SourceLine}

/-! ## Snippets that a boundary would part -/

section Boundary

variable (d : Draft)

/-- Whether beats have come into the open snippet. -/
def holdsBeats : Bool :=
  d.opened.any (!·.snippet.beats.isEmpty)

/-- Whether a boundary now would part the open snippet from a beat of these lines: one of them is a
beat, and no line before it, nor itself, ends the snippet. -/
def parts (d : Draft) : List SourceLine → Bool
  | [] => false
  | line :: rest =>
    if line.turn?.isSome || line.isHeader then false
    else d.readsBeat line || (d.step line).parts rest

/-! ## One boundary behind another -/

theorem marked_boundary : d.boundary.marked = d.marked.boundary := by
  unfold boundary marked
  cases d.opened <;> rfl

/-- Behind a boundary another one puts nothing away. -/
theorem boundary_boundary : d.boundary.Matches d.boundary.boundary := by
  cases opened : d.opened with
  | none =>
      rw [boundary_of_none opened, boundary_of_none (d := { d with pending := [] }) opened]
      exact .refl _
  | some o =>
      simp only [boundary, opened]
      exact ⟨rfl, rfl, rfl, rfl, rfl, rfl, rfl, rfl, rfl⟩

variable {d}

theorem Matches.boundary_boundary (same : d.boundary.Matches e) : d.boundary.Matches e.boundary :=
  d.boundary_boundary.trans same.boundary

/-- A snippet without beats is put away by leaving it out. -/
theorem matches_boundary (grouped : d.Grouped) (empty : d.holdsBeats = false) :
    d.Matches d.boundary := by
  cases opened : d.opened with
  | none =>
      rw [boundary_of_none opened]
      exact d.matches_pending []
  | some o =>
      have was := grouped o opened
      have beats : o.snippet.beats = [] := by simpa [holdsBeats, opened] using empty
      have group : o.snippet.group = none := by simpa [beats] using was.group
      have unplaced : (d.freshSnippet (o.carried ++ d.pending)).unplaced = o.snippet.unplaced := by
        simp [Snippet.unplaced, Snippet.silent, freshSnippet, beats, group, was.count]
      have block : o.closedBlock d.members = o.block := by simp [Opened.closedBlock, beats]
      have members : d.members + o.newMembers = d.members := by simp [Opened.newMembers, beats]
      simp only [boundary, opened, block, members]
      exact { Matches.refl d with
        opened := opened ▸ congrArg some (Opened.silent_congr rfl rfl unplaced) }

/-! ## Putting away -/

/-- The closed scene is the same, as there is nothing left in the open snippet. -/
theorem matches_close_boundary (d : Draft) : d.close.Matches d.boundary.close := by
  cases opened : d.opened with
  | none =>
      rw [boundary_of_none opened, close_of_none opened,
        close_of_none (d := { d with pending := [] }) opened]
      exact d.matches_pending []
  | some o =>
      simp only [close, boundary, opened]
      exact ⟨rfl, rfl, rfl, rfl, rfl, rfl, rfl, rfl, rfl⟩

theorem endsAlike_boundary (d : Draft) : d.EndsAlike d.boundary where
  scenes := d.matches_close_boundary.scenes
  taggedLines := d.taggedLines_boundary
  diagnostics := congrArg (List.filterMap Event.diagnostic?) d.events_boundary

theorem Matches.beginScene_boundary (same : d.boundary.Matches e) (id : Text) (origin : Origin) :
    (d.beginScene id origin).Matches (e.beginScene id origin) := by
  have closed := d.matches_close_boundary.beginScene id origin
  rw [beginScene_close, beginScene_close] at closed
  exact closed.trans (same.beginScene id origin)

theorem Matches.beginBlock_boundary (same : d.boundary.Matches e) (id : Text) (origin : Origin) :
    (d.beginBlock id origin).Matches (e.beginBlock id origin) := by
  refine Matches.trans ?_ (same.beginBlock id origin)
  cases opened : d.opened with
  | none =>
      rw [boundary_of_none opened]
      exact (d.matches_pending []).beginBlock id origin
  | some o =>
      simp only [Draft.beginBlock, Draft.boundary, opened, Draft.emit]
      exact ⟨rfl, rfl, rfl, rfl, rfl, rfl, rfl, rfl, rfl⟩

/-! ## Turns -/

/-- What a turn changes before its boundary can be changed behind another one. The same has to be
reported, levels have to be equally deep, and the open snippet has to be told the same of its place
in a group; comments do not matter. -/
theorem matches_boundary_aside (d : Draft) {events events' : List Event} {levels levels' : Levels}
    {groupDepth : Option Nat} {groups members members' : Nat} {merging merging' : Bool}
    {pending pending' : List Text}
    (loud : events'.filterMap Event.diagnostic? = events.filterMap Event.diagnostic?)
    (deep : levels'.depth = levels.depth)
    (closed : ∀ o, d.opened = some o → o.closedBlock members = o.closedBlock d.members)
    (joined : members' = members + d.opened.elim 0 Opened.newMembers) :
    ({ d with events, levels, groupDepth, groups, members, merging, pending } : Draft).boundary
      |>.Matches
        { d.boundary with
          events := events', levels := levels', groupDepth, groups, members := members'
          merging := merging', pending := pending' } := by
  have height : (groupDepth.elim 0 fun depth => levels'.depth - depth + 1) =
      groupDepth.elim 0 fun depth => levels.depth - depth + 1 := by rw [deep]
  cases opened : d.opened with
  | none =>
      rw [opened] at joined
      simp only [boundary, opened]
      exact ⟨rfl, rfl, rfl, loud, rfl, height, rfl, joined, rfl⟩
  | some o =>
      rw [opened] at joined
      simp only [boundary, opened, closed o opened]
      exact ⟨rfl, rfl, rfl, loud, rfl, height, rfl, joined, rfl⟩

theorem matches_openLevel_boundary (grouped : d.Grouped) (group : Bool) :
    (d.openLevel group).Matches (d.boundary.openLevel group) := by
  unfold openLevel
  dsimp only
  rw [groupDepth_boundary, levels_boundary, groups_boundary]
  refine Matches.boundary_boundary ?_
  split
  · rename_i begins
    have shut : d.groupDepth = none := by simpa using (Bool.and_eq_true_iff.mp begins).2
    have was : ∀ o, d.opened = some o → o.Grouped d.groups false := by
      intro o opened
      have was := grouped o opened
      rwa [shut] at was
    rw [emit, emit, events_boundary]
    refine d.matches_boundary_aside rfl rfl ?_ ?_
    -- The count is reset before the open snippet is put away, but that is no member.
    · exact fun o opened => Opened.closedBlock_of_not_open (was o opened) 0 d.members
    · cases opened : d.opened with
      | none => rfl
      | some o => simp [Opened.newMembers_of_not_open (was o opened)]
  · exact d.matches_boundary_aside (congrArg _ d.events_boundary) rfl (fun _ _ => rfl)
      d.members_boundary

theorem matches_closeLevel_boundary (d : Draft) :
    d.closeLevel.Matches d.boundary.closeLevel := by
  unfold closeLevel
  dsimp only
  rw [groupDepth_boundary, levels_boundary, groups_boundary]
  split
  · refine (Matches.boundary_boundary ?_).countGroup
    rw [emit, emit, note, note, events_boundary]
    exact d.matches_boundary_aside rfl rfl (fun _ _ => rfl) d.members_boundary
  · refine Matches.boundary_boundary ?_
    exact d.matches_boundary_aside (congrArg _ d.events_boundary) rfl (fun _ _ => rfl)
      d.members_boundary

/-- Any other turn is a boundary, but for comments. -/
theorem matches_turn (d : Draft) {turn : Turn} (opening : ∀ group, turn ≠ .opening group)
    (closing : turn ≠ .closing) : d.boundary.Matches (d.turn turn) := by
  cases turn with
  | opening group => exact absurd rfl (opening group)
  | closing => exact absurd rfl closing
  | speech =>
      simp only [Draft.turn]
      split
      · exact (d.matches_pending []).boundary.trans (matches_pending _ d.pending)
      · exact (d.matches_merging false).boundary
  | choice text => exact ((d.matches_merging true).trans (matches_note _ _)).boundary
  | gather =>
      simp only [Draft.turn]
      split
      · exact ((d.matches_merging false).trans (matches_note _ _)).boundary
      · exact .refl _
  | other => exact (d.matches_merging false).boundary

/-- While no group is open this holds of every turn that begins none. -/
theorem matches_turn_of_shut (shut : d.groupDepth = none) {turn : Turn}
    (begins : turn ≠ .opening true) : d.boundary.Matches (d.turn turn) := by
  have flat : ∀ levels pending, d.Matches { d with levels, pending } := by
    intro levels pending
    exact { Matches.refl d with height := by simp only [height, shut, Option.elim_none] }
  cases turn with
  | opening group =>
      obtain rfl : group = false := by simpa using begins
      exact (flat _ []).boundary
  | closing =>
      rw [Draft.turn, closeLevel_of_shut shut]
      exact (flat _ d.pending).boundary
  | speech | choice text | gather | other => exact d.matches_turn (by simp) (by simp)

/-- Before a turn a boundary makes no difference. -/
theorem matches_turn_boundary (grouped : d.Grouped) (turn : Turn) :
    (d.turn turn).Matches (d.boundary.turn turn) := by
  have plain : (∀ group, turn ≠ .opening group) → turn ≠ .closing →
      (d.turn turn).Matches (d.boundary.turn turn) := by
    intro opening closing
    exact (d.matches_turn opening closing).symm.trans
      (d.boundary_boundary.trans (d.boundary.matches_turn opening closing))
  cases turn with
  | opening group => exact matches_openLevel_boundary grouped group
  | closing => exact d.matches_closeLevel_boundary
  | speech | choice text | gather | other => exact plain (by simp) (by simp)

/-! ## Lines -/

theorem matches_heard_boundary (d : Draft) (line : SourceLine) :
    (d.heard line).boundary.Matches (d.boundary.heard line) := by
  have noted : ((Reading.ofLine line.text).comment.elim d d.note).boundary.Matches
      ((Reading.ofLine line.text).comment.elim d.boundary d.boundary.note) := by
    cases (Reading.ofLine line.text).comment with
    | none => exact .refl _
    | some comment => exact (d.matches_note comment).symm.boundary.trans (matches_note _ comment)
  unfold heard
  dsimp only
  cases line.kind with
  | blank | statement | tags tokens => exact noted
  | content turn role =>
      dsimp only
      rw [boundary_cascade, ← cascade_boundary, ← noted.cascade]
      exact { noted with cascade := rfl }

theorem matches_turned_of_none (d : Draft) (turns : line.turn? = none) :
    (d.turned line).boundary.Matches (d.boundary.turned line) := by
  rw [turned, turned, turns]
  exact d.matches_heard_boundary line

/-- A line that turns the flow does so in place of a boundary before it. -/
theorem matches_turned_boundary (within : d.Within) (grouped : d.Grouped) {turn : Turn}
    (turns : line.turn? = some turn) : (d.turned line).Matches (d.boundary.turned line) := by
  have grouped : (d.heard line).Grouped := grouped.moves (d.moves_heard line)
  rw [turned, turned, turns]
  exact (matches_turn_boundary grouped turn).trans
    ((d.matches_heard_boundary line).turn (within.moves (d.moves_heard line)).boundary
      (within.boundary.moves (moves_heard _ line)) turn)

/-- A line that ends the open snippet makes up for a boundary before it. -/
theorem matches_step_boundary (within : d.Within) (grouped : d.Grouped)
    (ends : (line.turn?.isSome || line.isHeader) = true) :
    (d.step line).Matches (d.boundary.step line) := by
  rw [step_eq, step_eq]
  cases turns : line.turn? with
  | some turn =>
      have turned := matches_turned_boundary within grouped turns
      unfold SourceLine.turn? at turns
      split at turns
      · rename_i role _
        exact Matches.kept.play turned _ _ role
      · cases turns
  | none =>
      have turned := d.matches_turned_of_none turns
      rw [turns] at ends
      cases kind : line.kind with
      | blank | statement | tags tokens =>
          simp [SourceLine.isHeader, SourceLine.knot?, SourceLine.stitch?, kind] at ends
      | content turn role =>
          cases role with
          | knot id => exact turned.beginScene_boundary id line.origin
          | stitch id => exact turned.beginBlock_boundary id line.origin
          | clause | comment text | prose ways =>
              simp [SourceLine.isHeader, SourceLine.knot?, SourceLine.stitch?, kind] at ends

/-- Whether the open snippet has been put away does not matter to a line that is no beat. -/
theorem related_boundary : Related fun d e => d.boundary.Matches e where
  cascade same := same.cascade.trans (cascade_boundary _)
  opened {d e} same := same.isSome_opened.trans d.isSome_opened_boundary
  complain same c origin := by
    rw [complain, boundary_emit]
    exact same.complain c origin
  note {d e} same comment :=
    (d.matches_note comment).symm.boundary.trans (same.trans (e.matches_note comment))
  passBy {d e} same origin tagged := by
    have emptied : ({ d with pending := [] } : Draft).boundary.Matches
        { d.boundary with pending := [] } :=
      (d.matches_pending []).symm.boundary.trans (matches_pending _ [])
    refine Matches.trans ?_ (same.passBy origin tagged)
    unfold passBy
    cases tagged with
    | none => exact emptied
    | some t =>
        dsimp only
        have recorded : d.boundary.taggedLines ++
            [(⟨t.id, d.boundary.cascade.apply t.tags, origin⟩ : TaggedLine)] =
              d.taggedLines ++ [⟨t.id, d.cascade.apply t.tags, origin⟩] := by
          rw [taggedLines_boundary, cascade_boundary]
        rw [boundary_emit, boundary_taggedLines { d with pending := [] }]
        refine Matches.emit ?_ rfl
        exact { emptied with taggedLines := recorded }

/-- Before a line that neither ends the open snippet nor adds a beat to it, a boundary is one
behind the line. -/
theorem boundary_step (turns : line.turn? = none) (header : line.isHeader = false)
    (reads : d.readsBeat line = false) : (d.step line).boundary.Matches (d.boundary.step line) := by
  have turned := d.matches_turned_of_none turns
  rw [step_eq, step_eq]
  cases kind : line.kind with
  | blank | statement => exact turned
  | tags tokens =>
      dsimp only
      rw [take, take, boundary_emit, boundary_cascade]
      refine Matches.emit ?_ rfl
      have cascade := related_boundary.cascade turned
      exact { turned with cascade := congrArg (Cascade.route · tokens) cascade }
  | content turn role =>
      cases role with
      | clause =>
          have turns' := SourceLine.isSome_turn?_of_clause kind
          rw [turns] at turns'
          cases turns'
      | knot id => simp [SourceLine.isHeader, SourceLine.knot?, kind] at header
      | stitch id => simp [SourceLine.isHeader, SourceLine.stitch?, kind] at header
      | comment text => exact related_boundary.note turned text
      | prose ways =>
          refine related_boundary.prose turned _ _ ways fun beat => ?_
          rw [← readsBeat_turned, readsBeat, SourceLine.prose?, kind, Option.any_some, beat]
            at reads
          cases reads

/-! ## Runs -/

/-- **A boundary may come early** if it does not part the open snippet from a beat to come. -/
theorem foldl_boundary (within : d.Within) (grouped : d.Grouped)
    (whole : (d.holdsBeats && d.parts lines) = false) :
    (lines.foldl step d).EndsAlike (lines.foldl step d.boundary) := by
  suffices all : ∀ e, d.boundary.Matches e → e.Within →
      (lines.foldl step d).EndsAlike (lines.foldl step e) from
    all d.boundary (.refl _) within.boundary
  induction lines generalizing d with
  | nil =>
      intro e same _
      exact d.endsAlike_boundary.trans same.endsAlike
  | cons line rest ih =>
      intro e same within'
      have stepped := same.step within.boundary within' line
      have within_ := within.step line
      have within'_ := within'.step line
      cases holds : d.holdsBeats with
      | false =>
          have here := (matches_boundary grouped holds).trans same
          exact (here.foldl_step within within' (line :: rest)).endsAlike
      | true =>
          rw [holds, Bool.true_and, parts] at whole
          split at whole
          · rename_i ends
            have here := (matches_step_boundary within grouped ends).trans stepped
            exact (here.foldl_step within_ within'_ rest).endsAlike
          · rename_i goesOn
            simp only [Bool.or_eq_true, not_or, Bool.not_eq_true, Option.isSome_eq_false_iff,
              Option.isNone_iff_eq_none] at goesOn
            rw [Bool.or_eq_false_iff] at whole
            have grouped_ : (d.step line).Grouped := grouped.moves (Moves.step d line)
            refine ih within_ grouped_ (by rw [whole.2, Bool.and_false]) _ ?_ within'_
            exact (boundary_step goesOn.1 goesOn.2 whole.1).trans stepped

end Boundary

end Draft

end Beatsheet

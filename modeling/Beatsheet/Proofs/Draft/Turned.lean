/-
# Beatsheet.Proofs.Draft.Turned — a line turns the flow, then plays its part

What a line does falls into two halves. `Draft.turned` is the draft between them: the comment at
the end of the line is pending, and the flow is turned if the line turns it. Then the line plays its
part (`plays_step`): it is a bare clause, a header or a beat, or it leaves all that the forest
depends on as it is (`Draft.Alike`). Whichever turn it was, in the forest it is a boundary
(`turn_cases`).
-/
import Beatsheet.Proofs.Draft.Outline
import Beatsheet.Proofs.Text.Trim

set_option autoImplicit false

namespace Beatsheet

namespace SourceLine

/-- What the line does to the flow of beats. -/
def turn? (line : SourceLine) : Option Turn :=
  match line.kind with
  | .content turn _ => turn
  | _ => none

end SourceLine

namespace Draft

/-- Two drafts are alike if they agree on the forest, put away or open, on the levels of braces and
on the group. Comments that wait, tags and what is recorded besides the forest do not count. -/
structure Alike (d e : Draft) : Prop where
  scenes : e.scenes = d.scenes
  opened : e.opened = d.opened
  levels : e.levels = d.levels
  groupDepth : e.groupDepth = d.groupDepth
  groups : e.groups = d.groups
  members : e.members = d.members

namespace Alike

variable {d e f : Draft}

theorem refl (d : Draft) : d.Alike d := ⟨rfl, rfl, rfl, rfl, rfl, rfl⟩

theorem trans (first : d.Alike e) (second : e.Alike f) : d.Alike f :=
  ⟨second.scenes.trans first.scenes, second.opened.trans first.opened,
    second.levels.trans first.levels, second.groupDepth.trans first.groupDepth,
    second.groups.trans first.groups, second.members.trans first.members⟩

end Alike

theorem alike_passBy (d : Draft) (origin : Origin) (tagged : Option Tagged) :
    d.Alike (d.passBy origin tagged) := by
  unfold passBy
  cases tagged with
  | none => exact ⟨rfl, rfl, rfl, rfl, rfl, rfl⟩
  | some t => exact ⟨rfl, rfl, rfl, rfl, rfl, rfl⟩

/-! ## Turning -/

/-- Whatever else it changes, a turn is a boundary in the forest, and at most tells the members of a
group how many they are behind it. -/
theorem turn_cases (d : Draft) (turn : Turn) :
    ∃ e : Draft, e.scenes = d.scenes ∧ e.opened = d.opened ∧
      ((∃ pending, d.turn turn = { e.boundary with pending }) ∨
        d.turn turn = e.boundary.countGroup) := by
  cases turn with
  | opening group =>
      simp only [Draft.turn, openLevel]
      refine ⟨_, ?_, ?_, .inl ⟨_, rfl⟩⟩
      all_goals split <;> rfl
  | closing =>
      simp only [Draft.turn, closeLevel]
      split
      · refine ⟨_, ?_, ?_, .inr rfl⟩ <;> rfl
      · refine ⟨_, ?_, ?_, .inl ⟨_, rfl⟩⟩ <;> rfl
  | speech =>
      simp only [Draft.turn]
      split
      · exact ⟨{ d with pending := [] }, rfl, rfl, .inl ⟨d.pending, rfl⟩⟩
      · refine ⟨_, ?_, ?_, .inl ⟨_, rfl⟩⟩ <;> rfl
  | choice text => refine ⟨_, ?_, ?_, .inl ⟨_, rfl⟩⟩ <;> rfl
  | gather =>
      simp only [Draft.turn]
      split
      · refine ⟨_, ?_, ?_, .inl ⟨_, rfl⟩⟩ <;> rfl
      · exact ⟨d, rfl, rfl, .inl ⟨_, rfl⟩⟩
  | other => refine ⟨_, ?_, ?_, .inl ⟨_, rfl⟩⟩ <;> rfl

/-- The draft before the flow is turned: the comment at the end of the line is pending, and content
is marked as such. -/
def heard (d : Draft) (line : SourceLine) : Draft :=
  let noted := (Reading.ofLine line.text).comment.elim d d.note
  match line.kind with
  | .content _ _ => { noted with cascade := noted.cascade.markContent }
  | _ => noted

/-- The draft between the two halves of a line, when the flow is turned. -/
def turned (d : Draft) (line : SourceLine) : Draft :=
  line.turn?.elim (d.heard line) (d.heard line).turn

section Turned

variable (d : Draft) (line : SourceLine)

theorem alike_heard : d.Alike (d.heard line) := by
  have noted : d.Alike ((Reading.ofLine line.text).comment.elim d d.note) := by
    cases (Reading.ofLine line.text).comment with
    | none => exact .refl d
    | some comment => exact ⟨rfl, rfl, rfl, rfl, rfl, rfl⟩
  unfold heard
  cases line.kind with
  | blank | statement | tags tokens => exact noted
  | content turn role => exact noted.trans ⟨rfl, rfl, rfl, rfl, rfl, rfl⟩

theorem active_heard : (d.heard line).cascade.active = d.cascade.active := by
  unfold heard
  cases line.kind
  all_goals cases (Reading.ofLine line.text).comment <;> rfl

theorem active_turned : (d.turned line).cascade.active = d.cascade.active := by
  unfold turned
  cases line.turn? with
  | none => exact d.active_heard line
  | some t => exact (congrArg Cascade.active (cascade_turn _ t)).trans (d.active_heard line)

theorem moves_heard : Moves d (d.heard line) := by
  have noted : Moves d ((Reading.ofLine line.text).comment.elim d d.note) := by
    cases (Reading.ofLine line.text).comment with
    | none => exact .refl
    | some comment => exact .single (.note d comment)
  unfold heard
  cases line.kind with
  | blank | statement | tags tokens => exact noted
  | content turn role => exact noted.tail (.cascade _ _)

theorem moves_turned : Moves d (d.turned line) := by
  unfold turned
  cases line.turn? with
  | none => exact d.moves_heard line
  | some t => exact (d.moves_heard line).trans (Moves.turn _ t)

/-- Turning the flow does not change what is read as a beat. -/
theorem readsBeat_turned : (d.turned line).readsBeat line = d.readsBeat line := by
  refine (reads_congr d _ (d.active_turned line) ?_ line).1
  unfold turned
  rw [← (d.alike_heard line).opened]
  cases line.turn? with
  | none => rfl
  | some t => exact isSome_opened_turn _ t

/-- What a line does, said with the draft between its halves. -/
theorem step_eq :
    d.step line =
      match line.kind with
      | .content _ role => (d.turned line).play (Reading.ofLine line.text).body line.origin role
      | kind => (d.turned line).take (Reading.ofLine line.text).body line.origin kind := by
  have kind : (Reading.ofLine line.text).kind = line.kind := rfl
  unfold step turned heard SourceLine.turn?
  dsimp only
  rw [kind]
  cases line.kind <;> rfl

end Turned

/-! ## Prose -/

/-- Prose is a beat, added to a draft like this one, or changes nothing that counts. -/
inductive ReadsProse (d : Draft) (origin : Origin) (ways : Prose) : Draft → Prop
  | beat (e : Draft) (o : Opened) (beat : Beat) (alike : d.Alike e) (opened : e.opened = some o)
      (stands : beat.origin = origin) (reads : d.readsProse ways = true) :
      ReadsProse d origin ways (e.addBeat o beat)
  | rest (e : Draft) (alike : d.Alike e) (reads : d.readsProse ways = false) :
      ReadsProse d origin ways e

theorem readsProse_takeShape (d : Draft) (line : Text) (origin : Origin) {ways : Prose}
    (unlabelled : d.cascade.active = true → ways.label = none) :
    ReadsProse d origin ways (d.takeShape line origin ways) := by
  have passed := d.alike_passBy origin ways.tagged
  unfold takeShape
  cases shape : ways.shape with
  | none => exact .rest _ passed (by simp [readsProse, shape])
  | some found =>
      cases active : d.cascade.active with
      | false =>
          have reads : d.readsProse ways = false := by simp [readsProse, active]
          cases found with
          | speech speech =>
              refine .rest _ (.trans ?_ (alike_passBy _ origin ways.tagged)) reads
              exact ⟨rfl, rfl, rfl, rfl, rfl, rfl⟩
          | action action => exact .rest _ passed reads
      | true =>
          cases opened : d.opened with
          | none => exact .rest _ passed (by simp [readsProse, opened])
          | some o =>
              refine .beat d o _ (.refl d) opened (origin_beatOf origin found) ?_
              simp [readsProse, active, opened, shape, unlabelled active]

theorem readsProse_prose (d : Draft) (line : Text) (origin : Origin) (ways : Prose) :
    ReadsProse d origin ways (d.prose line origin ways) := by
  obtain ⟨events, ⟨label, active, labelled, noted⟩ | ⟨unlabelled, shaped⟩⟩ :=
    d.prose_cases line origin ways
  · rw [noted]
    exact .rest _ ⟨rfl, rfl, rfl, rfl, rfl, rfl⟩ (by simp [readsProse, labelled])
  · rw [shaped]
    have alike : d.Alike { d with events } := ⟨rfl, rfl, rfl, rfl, rfl, rfl⟩
    have reads := readsProse_takeShape { d with events } line origin unlabelled
    generalize Draft.takeShape _ line origin ways = after at reads
    cases reads with
    | beat f o beat alike' opened stands reads =>
        exact .beat f o beat (alike.trans alike') opened stands reads
    | rest _ alike' reads => exact .rest _ (alike.trans alike') reads

end Draft

/-! ## Bare clauses -/

/-- A clause begins with its dash. -/
theorem Line.breaksFlow_of_clause {line : Text} {clause : Clause}
    (found : Clause.ofLine? line = some clause) : Line.breaksFlow line = true := by
  obtain ⟨rest, start⟩ : ∃ rest, Text.trimStart line = '-' :: rest := by
    unfold Clause.ofLine? at found
    split at found
    · exact ⟨_, ‹_›⟩
    · cases found
  obtain ⟨tail, trimmed⟩ := Text.trim_eq_cons start (by decide)
  simp only [Line.breaksFlow, trimmed, beq_self_eq_true, Bool.true_or]

/-- A line turns the flow by its braces or by breaking it. -/
theorem Turn.isSome_ofLine? (line : Text) :
    (Turn.ofLine? line).isSome = ((Brace.ofLine? line).isSome || Line.breaksFlow line) := by
  unfold Turn.ofLine?
  cases Brace.ofLine? line with
  | some brace => cases brace <;> rfl
  | none =>
      cases Line.breaksFlow line with
      | false => rfl
      | true =>
          simp only [Bool.not_true, Bool.false_eq_true, if_false, Option.isSome_none, Bool.or_true]
          split
          · rfl
          · split
            · rfl
            · split <;> rfl

theorem SourceLine.isSome_turn?_of_clause {line : SourceLine} {turn : Option Turn}
    (kind : line.kind = .content turn .clause) : line.turn?.isSome = true := by
  have told : line.turn? = turn := by rw [turn?, kind]
  obtain ⟨ofBody, role⟩ := content_eq kind
  rw [told, ofBody, Turn.isSome_ofLine?]
  unfold Role.ofLine at role
  split at role
  · rename_i clause found
    rw [Line.breaksFlow_of_clause found, Bool.or_true]
  · split at role
    · cases role
    · split at role
      · cases role
      · split at role <;> cases role

/-! ## Playing -/

namespace Draft

/-- What the part that a line plays makes of the draft, once the flow is turned. -/
inductive Plays (d : Draft) (line : SourceLine) : Draft → Prop
  | clause (turns : line.turn?.isSome = true) (knot : line.knot? = none)
      (stitch : line.stitch? = none) (reads : d.readsBeat line = false) :
      Plays d line (d.turned line).boundary
  | knot (heading : Heading) (knot : line.knot? = some heading)
      (reads : d.readsBeat line = false) :
      Plays d line ((d.turned line).beginScene heading.id heading.origin)
  | stitch (heading : Heading) (knot : line.knot? = none) (stitch : line.stitch? = some heading)
      (reads : d.readsBeat line = false) :
      Plays d line ((d.turned line).beginBlock heading.id heading.origin)
  | beat (e : Draft) (o : Opened) (beat : Beat) (alike : (d.turned line).Alike e)
      (opened : e.opened = some o) (stands : beat.origin = line.origin) (knot : line.knot? = none)
      (stitch : line.stitch? = none) (reads : d.readsBeat line = true) :
      Plays d line (e.addBeat o beat)
  | rest (e : Draft) (alike : (d.turned line).Alike e) (knot : line.knot? = none)
      (stitch : line.stitch? = none) (reads : d.readsBeat line = false) :
      Plays d line e

/-- **A line turns the flow, then plays its part.** -/
theorem plays_step (d : Draft) (line : SourceLine) : Plays d line (d.step line) := by
  rw [step_eq]
  cases kind : line.kind with
  | blank | statement =>
      refine .rest _ (.refl _) ?_ ?_ ?_
      all_goals simp [SourceLine.knot?, SourceLine.stitch?, readsBeat, SourceLine.prose?, kind]
  | tags tokens =>
      refine .rest _ ⟨rfl, rfl, rfl, rfl, rfl, rfl⟩ ?_ ?_ ?_
      all_goals simp [SourceLine.knot?, SourceLine.stitch?, readsBeat, SourceLine.prose?, kind]
  | content turn role =>
      cases role with
      | clause =>
          refine .clause (SourceLine.isSome_turn?_of_clause kind) ?_ ?_ ?_
          all_goals simp [SourceLine.knot?, SourceLine.stitch?, readsBeat, SourceLine.prose?, kind]
      | knot id =>
          refine .knot ⟨id, line.origin⟩ ?_ ?_
          all_goals simp [SourceLine.knot?, readsBeat, SourceLine.prose?, kind]
      | stitch id =>
          refine .stitch ⟨id, line.origin⟩ ?_ ?_ ?_
          all_goals simp [SourceLine.knot?, SourceLine.stitch?, readsBeat, SourceLine.prose?, kind]
      | comment text =>
          refine .rest _ ⟨rfl, rfl, rfl, rfl, rfl, rfl⟩ ?_ ?_ ?_
          all_goals simp [SourceLine.knot?, SourceLine.stitch?, readsBeat, SourceLine.prose?, kind]
      | prose ways =>
          have reads : (d.turned line).readsProse ways = d.readsBeat line := by
            rw [← readsBeat_turned]
            simp only [readsBeat, SourceLine.prose?, kind, Option.any_some]
          have knot : line.knot? = none := by simp [SourceLine.knot?, kind]
          have stitch : line.stitch? = none := by simp [SourceLine.stitch?, kind]
          have prose :=
            (d.turned line).readsProse_prose (Reading.ofLine line.text).body line.origin ways
          simp only [play]
          generalize (d.turned line).prose _ line.origin ways = after at prose
          cases prose with
          | beat e o beat alike opened stands yes =>
              exact .beat e o beat alike opened stands knot stitch (reads ▸ yes)
          | rest _ alike no => exact .rest _ alike knot stitch (reads ▸ no)

end Draft

end Beatsheet

/-
# Beatsheet.Proofs.Draft.Speech — speech in a draft

Where the annotation is on and a scene is open, a line of speech is added to the open snippet as a
beat, unless it is read as a label (`Draft.step_speech`). A line that has the form of a label, such
as `FRED:Wait:`, is lost therefore: its text waits as a comment, and nothing is reported.
-/
import Beatsheet.Proofs.Draft.Report
import Beatsheet.Proofs.Draft.Pending
import Beatsheet.Proofs.Line.Label

set_option autoImplicit false

namespace Beatsheet

open Text

variable {d : Draft} {line : SourceLine} {s : Speech}

/-! ## Lines of speech -/

theorem SourceLine.kind_of_speech (speech : Speech.ofLine? line.body = some s)
    (whole : '\n' ∉ line.body) (statement : Line.isStatement line.body = false) :
    line.kind = .content (Turn.ofLine? line.body)
      (.prose (Prose.ofLine (Clause.ofLine? line.body).isSome line.body)) :=
  Kind.ofLine_speech speech whole statement

namespace Draft

theorem isSome_opened_turned (d : Draft) (line : SourceLine) :
    (d.turned line).opened.isSome = d.opened.isSome := by
  unfold turned
  rw [← (d.alike_heard line).opened]
  cases line.turn? with
  | none => rfl
  | some turn => exact isSome_opened_turn _ turn

theorem apply_turned (d : Draft) (line : SourceLine) (tags : List Text) :
    (d.turned line).cascade.apply tags = d.cascade.apply tags := by
  have heard : (d.heard line).cascade.apply tags = d.cascade.apply tags := by
    unfold heard
    cases line.kind
    all_goals cases (Reading.ofLine line.text).comment <;> rfl
  unfold turned
  cases line.turn? with
  | none => exact heard
  | some turn =>
      rw [← heard]
      exact congrArg (Cascade.apply · tags) (cascade_turn _ turn)

/-- The beat that speech on the line becomes. -/
def spoken (d : Draft) (line : SourceLine) (s : Speech) : Beat :=
  { id := s.id, comments := (d.turned line).pending, tags := d.cascade.apply s.tags,
    origin := line.origin, text := s.text, part := .line s.speaker s.qualifier s.direction }

theorem given_turned (d : Draft) (line : SourceLine) (s : Speech) :
    (d.turned line).given line.origin (.speech s) = d.spoken line s := by
  rw [given, spoken, ← apply_turned d line]
  rfl

theorem beat?_speech (active : d.cascade.active = true) (opened : d.opened.isSome = true)
    (speech : Speech.ofLine? line.body = some s) (whole : '\n' ∉ line.body)
    (statement : Line.isStatement line.body = false) :
    d.beat? line = if (Line.label? line.body).isSome then none else some (d.spoken line s) := by
  have shape : Shape.ofLine? line.body = some (.speech s) := by rw [Shape.ofLine?, speech]
  rw [beat?, SourceLine.prose?, SourceLine.kind_of_speech speech whole statement]
  simp only [Option.bind_some, proseBeat?, readsProse, Prose.ofLine, shape, active_turned, active,
    isSome_opened_turned, opened, Option.map_some, given_turned]
  cases Line.label? line.body <;> rfl

theorem opened_addBeat_eq (d : Draft) (o : Opened) (beat : Beat) :
    (d.addBeat o beat).opened.map (·.snippet.beats) =
      some (o.snippet.beats ++
        [{ beat with comments := d.pending, tags := d.cascade.apply beat.tags }]) := by
  unfold addBeat
  dsimp only
  split <;> rfl

/-- What becomes of prose that is not read as a label, where the annotation is on and a scene is
open. -/
theorem opened_prose {o : Opened} {origin : Origin} {ways : Prose} {shape : Shape}
    (active : d.cascade.active = true) (opened : d.opened = some o)
    (label : ways.label = none) (found : ways.shape = some shape) (text : Text) :
    (d.prose text origin ways).opened.map (·.snippet.beats) =
      some (o.snippet.beats ++ [d.given origin shape]) := by
  obtain ⟨events, ⟨other, -, some_, -⟩ | ⟨-, shaped⟩⟩ := d.prose_cases text origin ways
  · rw [label] at some_
    cases some_
  · have added : ({ d with events } : Draft).takeShape text origin ways =
        ({ d with events } : Draft).addBeat o (beatOf origin shape) := by
      simp only [takeShape, found, active, opened, if_true]
    rw [shaped, added]
    exact opened_addBeat_eq _ o _

/-- **Speech is added to the open snippet, unless it has the form of a label.** -/
theorem step_speech (active : d.cascade.active = true) (opened : d.opened.isSome = true)
    (trimmed : trim line.text = line.text) (whole : line.text.any isBreak = false)
    (unmarked : occurs "//".toList line.text = false)
    (statement : Line.isStatement line.text = false)
    (speech : Speech.ofLine? line.text = some s) :
    (¬ Line.Labelled line.text →
      (d.step line).beats = d.beats ++ [d.spoken line s] ∧
        ∃ o, (d.turned line).opened = some o ∧
          (d.step line).opened.map (·.snippet.beats) =
            some (o.snippet.beats ++ [d.spoken line s])) ∧
    (Line.Labelled line.text →
      (∃ label, d.step line = (d.turned line).note label) ∧
        (d.step line).beats = d.beats ∧ (d.step line).diagnostics = d.diagnostics) := by
  have body : line.body = line.text := by
    rw [SourceLine.body, Reading.ofLine_of_unmarked unmarked, trimmed]
  have unbroken : '\n' ∉ line.text := fun member => by
    have all := List.any_eq_false.mp whole '\n' member
    exact all (by decide)
  rw [← body] at unbroken statement speech trimmed ⊢
  have labelled := Line.isSome_label?_iff speech trimmed
  have kind := SourceLine.kind_of_speech speech unbroken statement
  have beat := beat?_speech active opened speech unbroken statement
  have step : d.step line = (d.turned line).prose line.body line.origin
      (Prose.ofLine (Clause.ofLine? line.body).isSome line.body) := by
    rw [step_eq, kind]
    rfl
  constructor
  · intro other
    have none_ : Line.label? line.body = none := by
      rw [← Option.not_isSome_iff_eq_none, labelled]
      exact other
    rw [none_, Option.isSome_none, if_neg Bool.false_ne_true] at beat
    refine ⟨by rw [beats_step, beat]; rfl, ?_⟩
    have some_ := d.isSome_opened_turned line
    rw [opened] at some_
    obtain ⟨o, found⟩ := Option.isSome_iff_exists.mp some_
    refine ⟨o, found, ?_⟩
    have shape : (Prose.ofLine (Clause.ofLine? line.body).isSome line.body).shape =
        some (.speech s) := by rw [Prose.ofLine, Shape.ofLine?, speech]
    have active' : (d.turned line).cascade.active = true := by rw [active_turned, active]
    rw [step, opened_prose active' found none_ shape, given_turned]
  · intro form
    obtain ⟨label, found⟩ := Option.isSome_iff_exists.mp (labelled.mpr form)
    rw [found, Option.isSome_some, if_pos rfl] at beat
    have clause : Clause.ofLine? line.body = none := by
      obtain ⟨c, rest, start, -⟩ := Speech.start speech
      refine Clause.ofLine?_of_start start ?_
      rw [trimStart_of_trim trimmed] at start
      rintro rfl
      exact form.1 (by rw [start]; rfl)
    have noted : d.step line = (d.turned line).note label := by
      simp [step, prose, Prose.ofLine, clause, found, active_turned, active]
    refine ⟨⟨label, noted⟩, by rw [beats_step, beat]; exact List.append_nil _, ?_⟩
    rw [noted]
    exact d.diagnostics_turned line

/-- Colons in the qualifier, behind the speaker and at the end of the line, with blanks between
them. -/
theorem step_speech_of_colons :
    let d := upTo (SourceLine.ofSource "a.ink".toList "== K\n#dink\n#mood:sad\n// why".toList)
    let line : SourceLine :=
      ⟨"BERT (to:all): (low) Wait: here: #mood:glad #id:a".toList, ⟨"a.ink".toList, 5⟩⟩
    let s : Speech :=
      ⟨"BERT".toList, some "to:all".toList, some "low".toList, "Wait: here:".toList, "a".toList,
        ["mood:glad".toList]⟩
    d.cascade.active = true ∧ d.opened.isSome = true ∧ trim line.text = line.text ∧
      line.text.any isBreak = false ∧ occurs "//".toList line.text = false ∧
      Line.isStatement line.text = false ∧ Speech.ofLine? line.text = some s ∧
      ¬ Line.Labelled line.text ∧ (d.step line).beats = d.beats ++ [d.spoken line s] := by
  intro d line s
  have active : d.cascade.active = true := by decide +kernel
  have opened : d.opened.isSome = true := by decide +kernel
  have trimmed : trim line.text = line.text := by decide +kernel
  have whole : line.text.any isBreak = false := by decide +kernel
  have unmarked : occurs "//".toList line.text = false := by decide +kernel
  have statement : Line.isStatement line.text = false := by decide +kernel
  have speech : Speech.ofLine? line.text = some s := by decide +kernel
  have unlabelled : (Line.label? line.text).isSome = false := by decide +kernel
  have form : ¬ Line.Labelled line.text := by
    rw [← Line.isSome_label?_iff speech trimmed, unlabelled]
    exact Bool.false_ne_true
  have all := step_speech active opened trimmed whole unmarked statement speech
  exact ⟨active, opened, trimmed, whole, unmarked, statement, speech, form, (all.1 form).1⟩

/-- A line without blanks that ends with a colon is taken for a label, though a speaker says
something in it. -/
theorem not_always_spoken :
    ¬ ∀ (d : Draft) (line : SourceLine) (s : Speech), d.cascade.active = true →
      d.opened.isSome = true → trim line.text = line.text → line.text.any isBreak = false →
      occurs "//".toList line.text = false → Line.isStatement line.text = false →
      Speech.ofLine? line.text = some s →
      (d.step line).beats = d.beats ++ [d.spoken line s] := by
  intro always
  have lost := always (upTo (SourceLine.ofSource "a.ink".toList "== K\n#dink".toList))
    ⟨"FRED:Wait:".toList, ⟨"a.ink".toList, 3⟩⟩
    ⟨"FRED".toList, none, none, "Wait:".toList, [], []⟩
    (by decide +kernel) (by decide +kernel) (by decide +kernel) (by decide +kernel)
    (by decide +kernel) (by decide +kernel) (by decide +kernel)
  revert lost
  decide +kernel

end Draft

end Beatsheet

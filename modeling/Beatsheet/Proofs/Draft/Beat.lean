/-
# Beatsheet.Proofs.Draft.Beat — the beat that a line becomes

A line that is read as a beat takes the comments that wait once it has turned the flow, and inherits
tags from the cascade; nothing is changed in a beat afterwards. So the beat of a line can be told
from the site of the line (`Site.beat?`), and the beats of a script are those of its sites, in their
order (`beats_upTo`). Neither the names of snippets nor an earlier forest make a difference to them
(`beats_extractLines`).
-/
import Beatsheet.Proofs.Draft.Seat
import Beatsheet.Proofs.Extract.Names

set_option autoImplicit false

namespace Beatsheet

namespace Draft

/-- The beats of the script, if it ends here. -/
def beats (d : Draft) : List Beat :=
  d.seated.map Prod.snd

/-- The beat of a shape, with the comments that wait for it and the tags that it inherits. -/
def given (d : Draft) (origin : Origin) (shape : Shape) : Beat :=
  let beat := beatOf origin shape
  { beat with comments := d.pending, tags := d.cascade.apply beat.tags }

/-- The beat that prose becomes, if it is read as one. -/
def proseBeat? (d : Draft) (origin : Origin) (ways : Prose) : Option Beat :=
  if d.readsProse ways then ways.shape.map (d.given origin) else none

/-- The beat that a line becomes, if it is read as one. -/
def beat? (d : Draft) (line : SourceLine) : Option Beat :=
  line.prose?.bind ((d.turned line).proseBeat? line.origin)

variable {d e : Draft}

theorem isSome_proseBeat? (d : Draft) (origin : Origin) (ways : Prose) :
    (d.proseBeat? origin ways).isSome = d.readsProse ways := by
  unfold proseBeat?
  cases reads : d.readsProse ways with
  | false => rfl
  | true =>
      simp only [readsProse, Bool.and_eq_true] at reads
      simpa using reads.2

theorem isSome_beat? (d : Draft) (line : SourceLine) :
    (d.beat? line).isSome = d.readsBeat line := by
  rw [← readsBeat_turned, readsBeat, beat?]
  cases line.prose? with
  | none => rfl
  | some ways => exact isSome_proseBeat? _ line.origin ways

/-! ## Beats that are added -/

theorem beats_congr (scenes : e.scenes = d.scenes) (opened : e.opened = d.opened) :
    e.beats = d.beats := by
  rw [beats, seated_congr scenes opened, beats]

theorem beats_addBeat {o : Opened} (opened : d.opened = some o) (beat : Beat) :
    (d.addBeat o beat).beats =
      d.beats ++ [{ beat with comments := d.pending, tags := d.cascade.apply beat.tags }] := by
  have after : ∃ group, (d.addBeat o beat).opened = some
      { o with
        snippet :=
          { o.snippet with
            group
            beats := o.snippet.beats ++
              [{ beat with comments := d.pending, tags := d.cascade.apply beat.tags }] } } := by
    unfold addBeat
    dsimp only
    split <;> exact ⟨_, rfl⟩
  obtain ⟨group, after⟩ := after
  rw [beats, seated, scenes_addBeat, after, beats, seated, opened]
  simp [Opened.seated, Opened.seat, Snippet.seated]

theorem beats_takeShape (d : Draft) (line : Text) (origin : Origin) {ways : Prose}
    (unlabelled : d.cascade.active = true → ways.label = none) :
    (d.takeShape line origin ways).beats = d.beats ++ (d.proseBeat? origin ways).toList := by
  have passed : ∀ e : Draft, (e.passBy origin ways.tagged).beats = e.beats := fun e =>
    beats_congr (e.alike_passBy origin ways.tagged).scenes
      (e.alike_passBy origin ways.tagged).opened
  unfold takeShape proseBeat?
  cases shape : ways.shape with
  | none => simp [passed, readsProse, shape]
  | some found =>
      cases active : d.cascade.active with
      | false =>
          cases found with
          | speech speech =>
              have complained : (d.complain (.speechOutside line) origin).beats = d.beats :=
                beats_congr rfl rfl
              simp [passed, readsProse, active, complained]
          | action action => simp [passed, readsProse, active]
      | true =>
          cases opened : d.opened with
          | none => simp [passed, readsProse, opened]
          | some o =>
              have added := beats_addBeat opened (beatOf origin found)
              simpa [readsProse, active, opened, shape, unlabelled active, given] using added

theorem beats_prose (d : Draft) (line : Text) (origin : Origin) (ways : Prose) :
    (d.prose line origin ways).beats = d.beats ++ (d.proseBeat? origin ways).toList := by
  obtain ⟨events, ⟨label, active, labelled, noted⟩ | ⟨unlabelled, shaped⟩⟩ :=
    d.prose_cases line origin ways
  · have same : (({ d with events } : Draft).note label).beats = d.beats := beats_congr rfl rfl
    simp [noted, same, proseBeat?, readsProse, labelled]
  · rw [shaped]
    exact beats_takeShape { d with events } line origin unlabelled

/-- **What a line adds to the beats of a script.** -/
theorem beats_step (d : Draft) (line : SourceLine) :
    (d.step line).beats = d.beats ++ (d.beat? line).toList := by
  have turned : (d.turned line).beats = d.beats := by
    rw [beats, seated_turned, beats]
  rw [step_eq, beat?, SourceLine.prose?]
  cases line.kind with
  | blank | statement => simp [take, turned]
  | tags tokens =>
      have routed := beats_congr (d := d.turned line)
        (e := (d.turned line).take (Reading.ofLine line.text).body line.origin (.tags tokens))
        rfl rfl
      simp [routed, turned]
  | content turn role =>
      cases role with
      | clause => simp [play, beats, (breaks_boundary _).seated, seated_turned]
      | knot id => simp [play, beats, seated_beginScene, seated_turned]
      | stitch id => simp [play, beats, seated_beginBlock, seated_turned]
      | comment text =>
          have noted : ((d.turned line).note text).beats = (d.turned line).beats :=
            beats_congr rfl rfl
          simp [play, noted, turned]
      | prose ways => simp [play, beats_prose, turned]

end Draft

/-! ## The beats of a script -/

/-- The beat that the line becomes, if it is read as one. -/
def Site.beat? (s : Site) : Option Beat :=
  s.draft.beat? s.line

theorem Draft.beats_upTo (lines : List SourceLine) :
    (upTo lines).beats = (sites lines).filterMap Site.beat? := by
  induction lines using List.reverseRecOn with
  | nil => rfl
  | append_singleton rest line ih =>
      have here : Site.beat? ⟨rest, line⟩ = (upTo rest).beat? line := rfl
      rw [upTo_concat, beats_step, sites_concat, List.filterMap_append, ← ih]
      cases found : (upTo rest).beat? line with
      | none => simp [here, found]
      | some beat => simp [here, found]

/-- **The beats of an extraction are those of the sites of its lines, in their order.** -/
theorem beats_extractLines {σ : Type} (source : IdSource σ) (state : σ) (options : Options)
    (previous : Option (List (Scene Text))) (lines : List SourceLine) :
    (extractLines source state options previous lines).extraction.beats =
      (sites lines).filterMap Site.beat? := by
  obtain ⟨name, named⟩ := extractLines_scenes source state options previous lines
  have closed := (Draft.upTo lines).seated_close
  rw [Draft.seated, Draft.opened_close, Option.elim_none, List.append_nil] at closed
  rw [← Draft.beats_upTo, Draft.beats, ← closed, Extraction.beats, ← map_snd_seated, named,
    seated_map, Draft.ofLines_eq]

end Beatsheet

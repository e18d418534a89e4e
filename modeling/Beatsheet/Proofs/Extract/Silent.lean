/-
# Beatsheet.Proofs.Extract.Silent — lines of comment

A line of comment is content, and its braces and arrows turn the flow, before it is known for a
comment. So it does not leave all else alone: the scopes of tags are closed behind it, and where it
turns the flow it ends the open snippet and may begin or end a group. Where none of this can be seen
in the lines around it (`Draft.Ignores`), an extraction with the line is one without it, but for
comments and names (`extractLines_ofComment`).
-/
import Beatsheet.Proofs.Draft.Parted
import Beatsheet.Proofs.Draft.Remark
import Beatsheet.Proofs.Extract.Boundary

set_option autoImplicit false

namespace Beatsheet

/-! ## One more line of comment -/

namespace Draft

/-- What has to hold of the lines before and behind a remark for it to be nothing but a comment. -/
structure Ignores (d : Draft) (remark : SourceLine) (after : List SourceLine) : Prop where
  /-- No tags behind it are meant for a scope that is still open. -/
  tags : d.cascade.misses after = false
  /-- If it turns the flow, no beats stand before and behind it in one snippet. -/
  flow : remark.isBoundary = true → (d.holdsBeats && d.parts after) = false
  /-- If its braces do not balance, no group is open, nor does it begin one. -/
  braces : (Brace.ofLine? remark.body).isSome = true →
    d.groupDepth = none ∧ remark.turn? ≠ some (.opening true)

variable {d : Draft} {after : List SourceLine}

theorem step_ofComment (d : Draft) (comment : Text) (origin : Origin) :
    d.step (.ofComment comment origin) =
      ((SourceLine.ofComment comment origin).turn?.elim d.marked d.marked.turn).note
        (Text.trim (Text.trimEnd comment)) := by
  rw [step, SourceLine.turn?, SourceLine.kind, Reading.ofLine_ofComment]
  rfl

theorem turn?_ofComment (comment : Text) (origin : Origin) :
    (SourceLine.ofComment comment origin).turn? =
      Turn.ofPlain? (SourceLine.ofComment comment origin).body := by
  rw [SourceLine.turn?, SourceLine.kind, SourceLine.body, Reading.ofLine_ofComment]

/-- If a comment turns the flow, that is a boundary and nothing more. -/
theorem Ignores.turn {comment : Text} {origin : Origin} {turn : Turn}
    (ignores : d.Ignores (.ofComment comment origin) after)
    (turns : (SourceLine.ofComment comment origin).turn? = some turn) :
    d.boundary.marked.Matches (d.marked.turn turn) := by
  have braces := ignores.braces
  rw [marked_boundary]
  rw [turns] at braces
  rw [turn?_ofComment, Turn.ofPlain?] at turns
  split at turns
  · rename_i opens
    obtain ⟨shut, begins⟩ := braces (by rw [opens]; rfl)
    exact matches_turn_of_shut (d := d.marked) shut fun same => begins (congrArg some same)
  · rename_i closes
    obtain ⟨shut, begins⟩ := braces (by rw [closes]; rfl)
    exact matches_turn_of_shut (d := d.marked) shut fun same => begins (congrArg some same)
  · split at turns
    · obtain rfl := Option.some.inj turns
      exact d.marked.matches_turn (by simp) (by simp)
    · cases turns

/-- **A comment that is ignored makes no difference to what is put away in the end.** -/
theorem Ignores.endsAlike {comment : Text} {origin : Origin}
    (ignores : d.Ignores (.ofComment comment origin) after) (within : d.Within)
    (grouped : d.Grouped) :
    (after.foldl step d).EndsAlike (after.foldl step (d.step (.ofComment comment origin))) := by
  have within' := within.step (.ofComment comment origin)
  have flow := ignores.flow
  rw [SourceLine.isBoundary_eq] at flow
  rw [step_ofComment] at within' ⊢
  cases turns : (SourceLine.ofComment comment origin).turn? with
  | none =>
      rw [turns] at within'
      refine (foldl_marked within ignores.tags).trans (Matches.endsAlike ?_)
      exact (d.marked.matches_note _).foldl_step within.marked within' after
  | some turn =>
      rw [turns] at within' flow
      have unmissed : d.boundary.cascade.misses after = false := by
        rw [cascade_boundary]
        exact ignores.tags
      have turned := (ignores.turn turns).trans (matches_note _ (Text.trim (Text.trimEnd comment)))
      have bounded := foldl_boundary within grouped (flow rfl)
      have marked := foldl_marked within.boundary unmissed
      exact (bounded.trans marked).trans
        (turned.foldl_step within.boundary.marked within' after).endsAlike

end Draft

/-! ## Extractions -/

/-- An extraction without its comments, its snippets all under one name. -/
def Extraction.silent (e : Extraction) : Extraction :=
  { e with scenes := e.scenes.map (Scene.silent []) }

theorem silent_extractLines {σ : Type} (source : IdSource σ) (state : σ) (options : Options)
    (previous : Option (List (Scene Text))) (lines : List SourceLine) :
    (extractLines source state options previous lines).extraction.silent =
      { scenes := (Draft.upTo lines).close.scenes.map (Scene.silent [])
        taggedLines := (Draft.upTo lines).taggedLines
        diagnostics := (Draft.upTo lines).diagnostics } := by
  obtain ⟨name, named⟩ := extractLines_scenes source state options previous lines
  have diagnostics : (Draft.ofLines lines).diagnostics = (Draft.upTo lines).diagnostics :=
    congrArg (List.filterMap Event.diagnostic?) (Draft.upTo lines).events_close
  rw [Extraction.silent, named, extractLines_taggedLines, extractLines_diagnostics, diagnostics,
    Draft.ofLines_eq, Draft.taggedLines_close]
  simp

/-- **A line of comment makes no difference where it is ignored.** An extraction with the line is
the same as one without it, but for comments and the names of snippets. -/
theorem extractLines_ofComment {σ : Type} (source : IdSource σ) (state : σ) (options : Options)
    (previous : Option (List (Scene Text))) (before after : List SourceLine) (comment : Text)
    (origin : Origin)
    (ignores : (Draft.upTo before).Ignores (.ofComment comment origin) after) :
    (extractLines source state options previous
        (before ++ .ofComment comment origin :: after)).extraction.silent =
      (extractLines source state options previous (before ++ after)).extraction.silent := by
  have alike := ignores.endsAlike (Draft.within_upTo before) (Draft.grouped_upTo before)
  have without : Draft.upTo (before ++ after) = after.foldl Draft.step (Draft.upTo before) :=
    List.foldl_append
  have commented : Draft.upTo (before ++ .ofComment comment origin :: after) =
      after.foldl Draft.step ((Draft.upTo before).step (.ofComment comment origin)) := by
    rw [Draft.upTo, List.foldl_append]
    rfl
  have scenes := congrArg (List.map (Scene.silent ([] : Text))) alike.scenes
  simp only [List.map_map, Function.comp_def, Scene.silent_silent] at scenes
  rw [silent_extractLines, silent_extractLines, without, commented, alike.taggedLines,
    alike.diagnostics, scenes]

/-- Before a beat that begins a snippet a comment may hold an arrow, and braces that do not
balance. -/
theorem extractLines_ofComment_before_beat :
    let before :=
      SourceLine.ofSource "a.ink".toList "== K\n#dink #in\n* [Go]\nANNA: Hi. #id:a\n-".toList
    let after := SourceLine.ofSource "a.ink".toList "BERT: So. #id:b\nANNA: Yes. #id:c".toList
    let comment := SourceLine.ofComment " see \x7d -> M".toList ⟨"a.ink".toList, 6⟩
    (extractLines IdSource.numbered 0 {} none (before ++ comment :: after)).extraction.silent =
      (extractLines IdSource.numbered 0 {} none (before ++ after)).extraction.silent := by
  intro before after comment
  have ignores : (Draft.upTo before).Ignores comment after :=
    ⟨by decide +kernel, fun _ => by decide +kernel,
      fun _ => ⟨by decide +kernel, by decide +kernel⟩⟩
  exact extractLines_ofComment IdSource.numbered 0 {} none before after _ _ ignores

/-- An arrow in a comment between two beats parts them. -/
theorem not_always_silent :
    ¬∀ (before after : List SourceLine) (comment : Text) (origin : Origin),
      comment.any Text.isBreak = false →
      (extractLines IdSource.numbered 0 {} none
          (before ++ .ofComment comment origin :: after)).extraction.silent =
        (extractLines IdSource.numbered 0 {} none (before ++ after)).extraction.silent := by
  intro always
  have same := always (SourceLine.ofSource "a.ink".toList "== K\n#dink\nANNA: Hi. #id:a".toList)
    [⟨"BERT: Yo. #id:b".toList, ⟨"a.ink".toList, 5⟩⟩] " -> x".toList ⟨"a.ink".toList, 4⟩
    (by decide)
  revert same
  decide +kernel

/-- A comment closes the scope that the tags behind it were meant for. -/
example :
    let before := SourceLine.ofSource "a.ink".toList "== K\n#dink".toList
    let after := SourceLine.ofSource "a.ink".toList "#loc:inn\nANNA: Hi. #id:a".toList
    let comment := SourceLine.ofComment " at night".toList ⟨"a.ink".toList, 3⟩
    (extractLines IdSource.numbered 0 {} none (before ++ comment :: after)).extraction.silent ≠
      (extractLines IdSource.numbered 0 {} none (before ++ after)).extraction.silent := by
  decide +kernel

/-- A brace in a comment ends the group that is open. -/
example :
    let before := SourceLine.ofSource "a.ink".toList "== K\n#dink\n\x7b shuffle:".toList
    let after := SourceLine.ofSource "a.ink".toList "- ANNA: Hi. #id:a\n\x7d".toList
    let comment := SourceLine.ofComment " \x7d".toList ⟨"a.ink".toList, 4⟩
    (extractLines IdSource.numbered 0 {} none (before ++ comment :: after)).extraction.silent ≠
      (extractLines IdSource.numbered 0 {} none (before ++ after)).extraction.silent := by
  decide +kernel

end Beatsheet

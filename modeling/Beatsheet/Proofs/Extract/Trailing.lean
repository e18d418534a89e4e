/-
# Beatsheet.Proofs.Extract.Trailing — comments behind lines

A comment is written behind a line that has no `//`. If there is no `//` in the comment, the line
does what it did before, with the comment pending (`Draft.step_commented`); so an extraction with
the comment is one without it, but that lists of comments may hold the comment once more
(`extractLines_commented`). A comment with a `//` of its own, as in an address, is cut there, and
its beginning is read as part of the line (`not_always_commented`).
-/
import Beatsheet.Proofs.Draft.Gain
import Beatsheet.Proofs.Extract.Names
import Beatsheet.Proofs.Line.Trailing

set_option autoImplicit false

namespace Beatsheet

/-- The same extraction, but for one comment more at most in each list of comments. -/
structure Extraction.Gains (x : Text) (e f : Extraction) : Prop where
  scenes : List.Forall₂ (Scene.Gains x) e.scenes f.scenes
  taggedLines : f.taggedLines = e.taggedLines
  diagnostics : f.diagnostics = e.diagnostics

namespace Draft

/-- The names of snippets do not depend on comments, neither those issued nor those taken over. -/
theorem Gains.extractLines {σ : Type} (source : IdSource σ) (state : σ) (options : Options)
    (previous : Option (List (Scene Text))) {x : Text} {lines lines' : List SourceLine}
    (gains : (upTo lines).Gains x (upTo lines')) :
    (extractLines source state options previous lines).extraction.Gains x
      (extractLines source state options previous lines').extraction := by
  have closed : (ofLines lines).Gains x (ofLines lines') := gains.close
  have named : ∀ ids : List Text, List.Forall₂ (Scene.Gains x)
      ((ofLines lines).named ids) ((ofLines lines').named ids) := by
    intro ids
    exact List.rel_map (fun s t scene => scene.map fun u v snippet => by rw [snippet.id])
      closed.scenes
  cases previous with
  | none =>
      refine ⟨?_, closed.taggedLines, closed.diagnostics⟩
      simp only [Beatsheet.extractLines, closed.started]
      exact named _
  | some earlier =>
      refine ⟨?_, closed.taggedLines, closed.diagnostics⟩
      simp only [Beatsheet.extractLines, reconcile, closed.started]
      refine List.rel_map (fun s t scene => scene.map fun u v snippet => ?_) (named _)
      rw [Snippet.reused?, Snippet.reused?, snippet.ids_beats, snippet.id]

/-- **A line with a comment behind it does what it does without, the comment being pending.** -/
theorem step_commented (d : Draft) {line : SourceLine} (letters : Text.trim line.text ≠ [])
    (unmarked : Text.occurs "//".toList line.text = false) {comment : Text}
    (plain : Text.occurs "//".toList comment = false) :
    d.step (line.commented comment) = (d.note (Text.trim comment)).step line := by
  have reading := (Reading.ofLine_commented letters unmarked comment).mpr plain
  rw [step, reading, step, Reading.ofLine_of_unmarked unmarked]
  rfl

end Draft

/-- **A comment behind a line changes nothing but comments, as long as it holds no `//`.** Then, and
only then, the line is read as before, and the comment is what was written. It is pending when the
line is taken in; tag scopes are the same behind the lines that follow, and in the extraction each
list of comments is the same or has that comment once more. -/
theorem extractLines_commented {σ : Type} (source : IdSource σ) (state : σ) (options : Options)
    (previous : Option (List (Scene Text))) (before after : List SourceLine) (line : SourceLine)
    (comment : Text) (letters : Text.trim line.text ≠ [])
    (unmarked : Text.occurs "//".toList line.text = false) :
    (Reading.ofLine (line.commented comment).text =
        { Reading.ofLine line.text with comment := some (Text.trim comment) } ↔
      Text.occurs "//".toList comment = false) ∧
    (Text.occurs "//".toList comment = false →
      (∀ d : Draft, d.step (line.commented comment) = (d.note (Text.trim comment)).step line) ∧
      (Draft.upTo (before ++ line.commented comment :: after)).cascade =
        (Draft.upTo (before ++ line :: after)).cascade ∧
      (extractLines source state options previous
          (before ++ line :: after)).extraction.Gains (Text.trim comment)
        (extractLines source state options previous
          (before ++ line.commented comment :: after)).extraction) := by
  refine ⟨Reading.ofLine_commented letters unmarked comment, fun plain => ?_⟩
  have step := fun d : Draft => d.step_commented letters unmarked plain
  have gains : (Draft.upTo (before ++ line :: after)).Gains (Text.trim comment)
      (Draft.upTo (before ++ line.commented comment :: after)) := by
    have noted := Draft.gains_note (Draft.stacked_upTo before) (Text.trim comment)
    have run := noted.foldl_step (line :: after)
    rw [List.foldl_cons (b := (Draft.upTo before).note _), ← step, ← List.foldl_cons] at run
    rwa [Draft.upTo, ← List.foldl_append, ← List.foldl_append] at run
  exact ⟨step, gains.cascade, gains.extractLines source state options previous⟩

/-- A comment with single slashes, a brace and what would be an identifier elsewhere. -/
theorem extractLines_commented_of_slashes :
    let before := SourceLine.ofSource "a.ink".toList "== K\n#dink".toList
    let line : SourceLine := ⟨" ANNA: Hi. #id:a ".toList, ⟨"a.ink".toList, 3⟩⟩
    let comment := "\x7b a/b / #id:c  ".toList
    Text.trim line.text ≠ [] ∧ Text.occurs "//".toList line.text = false ∧
      Text.occurs "//".toList comment = false ∧
      (extractLines IdSource.numbered 0 {} none (before ++ [line])).extraction.Gains
        "\x7b a/b / #id:c".toList
        (extractLines IdSource.numbered 0 {} none
          (before ++ [line.commented comment])).extraction := by
  intro before line comment
  have letters : Text.trim line.text ≠ [] := by decide
  have unmarked : Text.occurs "//".toList line.text = false := by decide
  have plain : Text.occurs "//".toList comment = false := by decide
  have all := extractLines_commented IdSource.numbered 0 {} none before [] line comment letters
    unmarked
  exact ⟨letters, unmarked, plain, (all.2 plain).2.2⟩

/-- An address in a comment: what stands before its slashes is spoken, and the beat has lost its
identifier. -/
theorem not_always_commented :
    ¬ ∀ (before after : List SourceLine) (line : SourceLine) (comment : Text),
      Text.trim line.text ≠ [] → Text.occurs "//".toList line.text = false →
      comment.any Text.isBreak = false →
      (extractLines IdSource.numbered 0 {} none
          (before ++ line :: after)).extraction.Gains (Text.trim comment)
        (extractLines IdSource.numbered 0 {} none
          (before ++ line.commented comment :: after)).extraction := by
  intro always
  have gains := always (SourceLine.ofSource "a.ink".toList "== K\n#dink".toList) []
    ⟨"ANNA: Hi. #id:a".toList, ⟨"a.ink".toList, 3⟩⟩ "see http://x".toList (by decide) (by decide)
    (by decide)
  have same := gains.diagnostics
  revert same
  decide +kernel

end Beatsheet

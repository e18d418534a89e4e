/-
# Beatsheet.Proofs.Draft.Remark — remarks

A remark is a line that is nothing but a comment or, where the annotation is on, a label. A remark
starts with neither a dash nor a bullet, so it turns the flow by its braces or by an arrow in it and
in no other way (`turn?_of_remark`).
-/
import Beatsheet.Proofs.Draft.Turned

set_option autoImplicit false

namespace Beatsheet

open Text

/-! ## Lines without a dash or a bullet -/

/-- Whether there is an arrow in the line. -/
def Line.hasArrow (line : Text) : Bool :=
  occurs "->".toList (trim line) || occurs "<-".toList (trim line)

/-- What a line does to the flow that starts with neither a dash nor a bullet. -/
def Turn.ofPlain? (line : Text) : Option Turn :=
  match Brace.ofLine? line with
  | some .opening => some (.opening (Line.opensGroup line))
  | some .closing => some .closing
  | none => if Line.hasArrow line then some .other else none

theorem Turn.isSome_ofPlain? (line : Text) :
    (Turn.ofPlain? line).isSome = ((Brace.ofLine? line).isSome || Line.hasArrow line) := by
  unfold Turn.ofPlain?
  cases Brace.ofLine? line with
  | some brace => cases brace <;> rfl
  | none => cases Line.hasArrow line <;> rfl

theorem Turn.ofPlain?_ne_speech (line : Text) : Turn.ofPlain? line ≠ some .speech := by
  unfold Turn.ofPlain?
  split
  · simp
  · simp
  · split <;> simp

theorem Turn.ofLine?_of_start {line rest : Text} {c : Char} (start : trimStart line = c :: rest)
    (letter : isBlank c = false) (dash : c ≠ '-') (bullet : Line.isBullet c = false) :
    Turn.ofLine? line = Turn.ofPlain? line := by
  obtain ⟨tail, trimmed⟩ := trim_eq_cons start letter
  have plain : (c == '-') = false := by simpa using dash
  have breaks : Line.breaksFlow line = Line.hasArrow line := by
    simp [Line.breaksFlow, Line.hasArrow, trimmed, plain, bullet]
  have speech : Line.isDashSpeech line = false := by
    unfold Line.isDashSpeech
    rw [trimmed]
    split
    · rename_i same
      exact absurd (List.cons.inj same).1 dash
    · rfl
  have choice : Line.choice? line = none := by
    simp [Line.choice?, Line.afterBullets?, start, bullet]
  have gather : Line.isGather line = false := by
    simp [Line.isGather, trimmed, dash]
  unfold Turn.ofLine? Turn.ofPlain?
  rw [breaks, speech, choice, gather]
  cases Line.hasArrow line <;> rfl

/-! ## Comments and labels -/

theorem Turn.ofLine?_of_comment {line text : Text} (found : Line.comment? line = some text) :
    Turn.ofLine? line = Turn.ofPlain? line := by
  rw [Line.comment?, Option.map_eq_some_iff] at found
  obtain ⟨rest, after, -⟩ := found
  obtain rfl := eq_append_of_after? after
  exact Turn.ofLine?_of_start rfl (by decide) (by decide) (by decide)

theorem Turn.ofLine?_of_label {line label : Text} (found : Line.label? line = some label) :
    Turn.ofLine? line = Turn.ofPlain? line := by
  obtain ⟨c, rest, rfl, starts⟩ : ∃ c rest, line = c :: rest ∧
      (c == '(' || Line.isLabelStart c) = true := by
    unfold Line.label? at found
    cases line with
    | nil => cases found
    | cons c rest =>
        refine ⟨c, rest, rfl, ?_⟩
        by_contra other
        simp [other] at found
  have plain : isBlank c = false ∧ c ≠ '-' ∧ Line.isBullet c = false := by
    rcases Bool.or_eq_true_iff.mp starts with bracket | letter
    · obtain rfl := beq_iff_eq.mp bracket
      decide
    · simp only [Line.isLabelStart, Bool.not_eq_true', Bool.or_eq_false_iff] at letter
      have other := letter.1
      simp only [List.contains_eq_mem, decide_eq_false_iff_not] at other
      refine ⟨letter.2, ?_, ?_⟩
      · rintro rfl
        exact other (by decide)
      · by_contra bullet
        simp only [Line.isBullet, Bool.not_eq_false, Bool.or_eq_true, beq_iff_eq] at bullet
        rcases bullet with rfl | rfl
        · exact other (by decide)
        · exact other (by decide)
  have start : trimStart (c :: rest) = c :: rest := by
    simp [trimStart, plain.1]
  exact Turn.ofLine?_of_start start plain.1 plain.2.1 plain.2.2

theorem Role.comment?_of_ofLine {line text : Text} (role : Role.ofLine line = .comment text) :
    Line.comment? line = some text := by
  unfold Role.ofLine at role
  split at role
  · split at role <;> cases role
  · split at role
    · cases role
    · split at role
      · cases role
      · split at role
        · rename_i text' comment
          rw [comment, Role.comment.inj role]
        · cases role

theorem Role.label_of_ofLine {line : Text} {ways : Prose} (role : Role.ofLine line = .prose ways) :
    ways.label = Line.label? line := by
  unfold Role.ofLine at role
  split at role
  · split at role
    · cases role
    · rw [← Role.prose.inj role]
      rfl
  · split at role
    · cases role
    · split at role
      · cases role
      · split at role
        · cases role
        · rw [← Role.prose.inj role]
          rfl

/-! ## Lines of comment -/

theorem Text.trim_comment (t : Text) : trim ("//".toList ++ t) = "//".toList ++ trimEnd t := by
  have start : trimStart ("//".toList ++ t) = '/' :: '/' :: t := rfl
  rw [trim, start, trimEnd_cons (by decide), trimEnd_cons (by decide)]
  rfl

/-- A text that starts with `//` is content, whatever follows. -/
theorem Kind.ofLine_comment (t : Text) :
    Kind.ofLine ("//".toList ++ t) =
      .content (Turn.ofPlain? ("//".toList ++ t)) (.comment (trim t)) := by
  have found : Line.comment? ("//".toList ++ t) = some (trim t) := by
    rw [Line.comment?, after?_append, Option.map_some]
  have tags : Tag.line? ("//".toList ++ t) = none := by
    rw [Tag.line?, Text.trim_comment]
    rfl
  have statement : Line.isStatement ("//".toList ++ t) = false := rfl
  have role : Role.ofLine ("//".toList ++ t) = .comment (trim t) := by
    have clause : Clause.ofLine? ("//".toList ++ t) = none := rfl
    have knot : Line.knot? ("//".toList ++ t) = none := rfl
    have stitch : Line.stitch? ("//".toList ++ t) = none := rfl
    rw [Role.ofLine, clause, knot, stitch, found]
  rw [Kind.ofLine, tags, statement, Turn.ofLine?_of_comment found, role]
  rfl

/-- A line that is nothing but a comment, whatever that is. -/
def SourceLine.ofComment (comment : Text) (origin : Origin) : SourceLine :=
  ⟨"//".toList ++ comment, origin⟩

theorem Reading.ofLine_ofComment (comment : Text) (origin : Origin) :
    Reading.ofLine (SourceLine.ofComment comment origin).text =
      ⟨"//".toList ++ trimEnd comment, none,
        .content (Turn.ofPlain? ("//".toList ++ trimEnd comment))
          (.comment (trim (trimEnd comment)))⟩ := by
  have split : Line.splitComment (trim (SourceLine.ofComment comment origin).text) =
      ("//".toList ++ trimEnd comment, none) := by
    rw [SourceLine.ofComment, Text.trim_comment, Line.splitComment, Line.comment?, after?_append]
    rfl
  rw [Reading.ofLine, split, ← Kind.ofLine_comment]

namespace SourceLine

/-- The line without the comment at its end. -/
def body (line : SourceLine) : Text :=
  (Reading.ofLine line.text).body

/-- The comment at the end of the line, if there is one. -/
def trailing (line : SourceLine) : List Text :=
  (Reading.ofLine line.text).comment.toList

/-- Whether the braces of the line do not balance or there is an arrow in it. -/
def discards (line : SourceLine) : Bool :=
  (Brace.ofLine? line.body).isSome || Line.hasArrow line.body

end SourceLine

namespace Draft

/-- What a remark says, if the line is one. -/
def remark? (d : Draft) (line : SourceLine) : Option Text :=
  match line.kind with
  | .content _ (.comment text) => some text
  | .content _ (.prose ways) => if d.cascade.active then ways.label else none
  | _ => none

/-- A remark turns the flow by its braces or by an arrow. -/
theorem turn?_of_remark {d : Draft} {line : SourceLine} {remark : Text}
    (found : d.remark? line = some remark) : line.turn? = Turn.ofPlain? line.body := by
  unfold remark? at found
  split at found
  · rename_i turn text kind
    obtain ⟨turns, role⟩ := SourceLine.content_eq kind
    rw [SourceLine.turn?, kind, turns]
    exact Turn.ofLine?_of_comment (Role.comment?_of_ofLine role.symm)
  · rename_i turn ways kind
    obtain ⟨turns, role⟩ := SourceLine.content_eq kind
    rw [SourceLine.turn?, kind, turns]
    have label := Role.label_of_ofLine role.symm
    split at found
    · exact Turn.ofLine?_of_label (label.symm.trans found)
    · cases found
  · cases found

end Draft

end Beatsheet

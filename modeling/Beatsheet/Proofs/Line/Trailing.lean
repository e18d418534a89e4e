/-
# Beatsheet.Proofs.Line.Trailing — comments at the end of a line

A line that has no `//` of its own, with a comment written behind it, is read as the line without
that comment, and the comment is what was written, just if that holds no `//` either
(`Reading.ofLine_commented`). Where it does, the line is cut at the last `//` and all before it is
read as part of the line.
-/
import Beatsheet.Proofs.Draft.Remark

set_option autoImplicit false

namespace Beatsheet

open Text

namespace Line

/-! ## The last mark -/

theorem cutLast?_eq_none_iff (t : Text) : cutLast? t = none ↔ occurs "//".toList t = false := by
  rw [Bool.eq_false_iff, ne_eq, occurs_iff]
  constructor
  · intro uncut
    induction t with
    | nil => simp
    | cons c rest ih =>
        cases later : cutLast? rest with
        | some found => simp [cutLast?, later] at uncut
        | none =>
            simp only [cutLast?, later, Option.map_eq_none_iff] at uncut
            rw [List.infix_cons_iff, not_or]
            refine ⟨?_, ih later⟩
            rintro ⟨tail, parts⟩
            rw [← parts, after?_append] at uncut
            cases uncut
  · intro unmarked
    cases cut : cutLast? t with
    | none => rfl
    | some found =>
        exact absurd ⟨found.1, found.2, (eq_of_cutLast? cut).symm⟩ unmarked

/-- What stands in front of the last mark does not matter for where that is. -/
theorem cutLast?_append {t head tail : Text} (cut : cutLast? t = some (head, tail)) (front : Text) :
    cutLast? (front ++ t) = some (front ++ head, tail) := by
  induction front with
  | nil => exact cut
  | cons c front ih => rw [List.cons_append, cutLast?, ih, List.cons_append]

/-- A mark is the last one if none follows, nor begins in it. -/
theorem cutLast?_mark {t : Text} (unmarked : cutLast? t = none) (apart : t.head? ≠ some '/') :
    cutLast? ('/' :: '/' :: t) = some ([], t) := by
  have second : cutLast? ('/' :: t) = none := by
    rw [cutLast?, unmarked]
    cases t with
    | nil => rfl
    | cons c rest =>
        have other : '/' ≠ c := fun same => apart (by rw [same]; rfl)
        simp [after?, other]
  rw [cutLast?, second]
  simp [after?]

/-- A text is a line of comment if the mark stands in front. -/
theorem comment?_eq_none {t : Text} (unmarked : occurs "//".toList t = false) :
    comment? t = none := by
  rw [Bool.eq_false_iff, ne_eq, occurs_iff] at unmarked
  rw [comment?, Option.map_eq_none_iff]
  cases found : after? "//".toList t with
  | none => rfl
  | some rest => exact absurd ⟨[], rest, (eq_append_of_after? found).symm⟩ unmarked

theorem comment?_append_blank {t : Text} (nonempty : t ≠ [])
    (unmarked : occurs "//".toList t = false) (rest : Text) :
    comment? (t ++ ' ' :: rest) = none := by
  match t with
  | [] => exact absurd rfl nonempty
  | [c] => simp [comment?, after?]
  | c :: d :: t =>
      have apart : ¬ ('/' = c ∧ '/' = d) := by
        rintro ⟨rfl, rfl⟩
        simp [occurs] at unmarked
      have mark : "//".toList = ['/', '/'] := rfl
      rw [comment?, Option.map_eq_none_iff, mark]
      simp only [List.cons_append, after?]
      split
      · rename_i first
        exact if_neg fun second => apart ⟨first, second⟩
      · rfl

end Line

/-! ## Readings -/

/-- The line with a comment written behind it. -/
def SourceLine.commented (line : SourceLine) (comment : Text) : SourceLine :=
  { line with text := line.text ++ " // ".toList ++ comment }

theorem Reading.ofLine_of_unmarked {t : Text} (unmarked : occurs "//".toList t = false) :
    Reading.ofLine t = ⟨trim t, none, Kind.ofLine (trim t)⟩ := by
  have within := not_occurs_of_infix (infix_trim t) unmarked
  have split : Line.splitComment (trim t) = (trim t, none) := by
    rw [Line.splitComment, Line.comment?_eq_none within, (Line.cutLast?_eq_none_iff _).mpr within]
    rfl
  rw [Reading.ofLine, split]

namespace SourceLine

variable {line : SourceLine}

theorem trim_commented (letters : trim line.text ≠ []) (comment : Text) :
    trim (line.commented comment).text =
      trimStart line.text ++ [' '] ++ '/' :: '/' :: trimEnd (' ' :: comment) := by
  have parts : (line.commented comment).text =
      line.text ++ (' ' :: '/' :: '/' :: ' ' :: comment) := by
    rw [commented, List.append_assoc]
    rfl
  rw [parts, trim, trimStart_append (trimStart_ne_nil letters)]
  have slash : isBlank '/' = false := by decide
  have marked := trimEnd_append_cons slash (trimStart line.text ++ [' ']) ('/' :: ' ' :: comment)
  rw [trimEnd_cons slash] at marked
  simpa using marked

/-- The line is cut where the last `//` is, in the comment or before it. -/
theorem splitComment_commented (letters : trim line.text ≠ [])
    (unmarked : occurs "//".toList line.text = false) {comment head tail : Text}
    (cut : Line.cutLast? ('/' :: '/' :: trimEnd (' ' :: comment)) = some (head, tail)) :
    Line.splitComment (trim (line.commented comment).text) =
      (trim (trimStart line.text ++ [' '] ++ head), some (trim tail)) := by
  have start : occurs "//".toList (trimStart line.text) = false :=
    not_occurs_of_infix (suffix_trimStart _).isInfix unmarked
  have content : Line.comment? (trimStart line.text ++ [' '] ++ '/' :: '/' ::
      trimEnd (' ' :: comment)) = none := by
    rw [List.append_assoc]
    exact Line.comment?_append_blank (trimStart_ne_nil letters) start _
  rw [trim_commented letters, Line.splitComment, content, Line.cutLast?_append cut]
  rfl

end SourceLine

/-- **A comment behind a line leaves the reading of the line alone just if there is no `//` in it.**
-/
theorem Reading.ofLine_commented {line : SourceLine} (letters : trim line.text ≠ [])
    (unmarked : occurs "//".toList line.text = false) (comment : Text) :
    Reading.ofLine (line.commented comment).text =
        { Reading.ofLine line.text with comment := some (trim comment) } ↔
      occurs "//".toList comment = false := by
  have slash : isBlank '/' = false := by decide
  rw [Reading.ofLine_of_unmarked unmarked, Reading.ofLine]
  constructor
  · intro same
    by_contra marked
    rw [Bool.not_eq_false, occurs_iff] at marked
    obtain ⟨front, back, rfl⟩ := marked
    -- The comment is cut at its own last mark, so two slashes at least are missing from it.
    have kept : trimEnd (' ' :: (front ++ "//".toList ++ back)) =
        ' ' :: front ++ '/' :: '/' :: trimEnd back := by
      have ends := trimEnd_append_cons slash (' ' :: front) ('/' :: back)
      rw [trimEnd_cons slash] at ends
      simpa using ends
    obtain ⟨⟨head, tail⟩, cut⟩ :
        ∃ found, Line.cutLast? ('/' :: '/' :: trimEnd back) = some found := by
      rw [← Option.ne_none_iff_exists', ne_eq, Line.cutLast?_eq_none_iff]
      simp [occurs]
    have later := Line.cutLast?_append cut ('/' :: '/' :: ' ' :: front)
    rw [SourceLine.splitComment_commented letters unmarked (by rw [kept]; exact later)] at same
    have comments := congrArg (List.count '/') (Option.some.inj (congrArg Reading.comment same))
    have parts := congrArg (List.count '/') (Line.eq_of_cutLast? cut)
    simp only [count_trim slash, List.count_append, List.count_cons_self, count_trimEnd slash,
      show "//".toList = ['/', '/'] from rfl, List.count_nil] at comments parts
    omega
  · intro plain
    have within : occurs "//".toList (trimEnd (' ' :: comment)) = false := by
      refine not_occurs_of_infix (prefix_trimEnd _).isInfix ?_
      rw [occurs, plain, Bool.or_false]
      rfl
    have apart : (trimEnd (' ' :: comment)).head? ≠ some '/' := by
      obtain ⟨rest, parts⟩ := prefix_trimEnd (' ' :: comment)
      intro head
      obtain ⟨tail, begins⟩ := List.head?_eq_some_iff.mp head
      rw [begins] at parts
      cases parts
    have cut := Line.cutLast?_mark ((Line.cutLast?_eq_none_iff _).mpr within) apart
    rw [SourceLine.splitComment_commented letters unmarked cut, List.append_nil,
      trim_trimStart_concat (by decide) (trimStart_ne_nil letters), trim_trimEnd,
      trim_blank_cons (by decide)]

end Beatsheet

/-
# Beatsheet.Line.Remark — comments in a line

A line that starts with `//` is a comment. In any other line the comment begins at the last `//`,
and both the comment and what stands before it are trimmed.
-/
import Beatsheet.Text.Basic

set_option autoImplicit false

namespace Beatsheet.Line

open Text

/-- The text of a line that is a comment. -/
def comment? (line : Text) : Option Text :=
  (after? "//".toList line).map trim

/-- What stands before the last `//`, and what after it. -/
def cutLast? : Text → Option (Text × Text)
  | [] => none
  | c :: rest =>
    match cutLast? rest with
    | some (head, tail) => some (c :: head, tail)
    | none => (after? "//".toList (c :: rest)).map fun tail => ([], tail)

theorem eq_of_cutLast? {t head tail : Text} (h : cutLast? t = some (head, tail)) :
    t = head ++ "//".toList ++ tail := by
  induction t generalizing head with
  | nil => simp [cutLast?] at h
  | cons c rest ih =>
    cases hr : cutLast? rest with
    | some found =>
      obtain ⟨start, finish⟩ := found
      simp only [cutLast?, hr, Option.some.injEq, Prod.mk.injEq] at h
      obtain ⟨rfl, rfl⟩ := h
      simp [ih hr]
    | none =>
      simp only [cutLast?, hr, Option.map_eq_some_iff, Prod.mk.injEq] at h
      obtain ⟨finish, hf, rfl, rfl⟩ := h
      simpa using eq_append_of_after? hf

/-- A line without the comment that ends it, and that comment. -/
def splitComment (line : Text) : Text × Option Text :=
  if (comment? line).isSome then (line, none)
  else
    match cutLast? line with
    | some (head, tail) => (trim head, some (trim tail))
    | none => (line, none)

end Beatsheet.Line

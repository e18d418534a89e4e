/-
# Beatsheet.Line.Shape — the shapes of beats

Speech is written `SPEAKER (qualifier): (direction) text #tags`, an action `text #tags`; both may
have a dash in front. The text starts with a word character, stays in one line and ends where the
longest run of tags begins, so that no tag is left in it. An action has at least one tag.

A bracket may hold further closing brackets: it ends at the first one from which the rest of the
line can be read.
-/
import Beatsheet.Tag.Basic
import Beatsheet.Text.WordChar
import Beatsheet.Line.Clause

set_option autoImplicit false

namespace Beatsheet

open Text

structure Speech where
  speaker : Text
  qualifier : Option Text
  direction : Option Text
  text : Text
  id : Text
  tags : List Text
  deriving DecidableEq, Repr

structure Action where
  text : Text
  id : Text
  tags : List Text
  deriving DecidableEq, Repr

namespace Line

/-- A line without the dash that may stand in front, and without blanks around it. -/
def afterDash (line : Text) : Text :=
  match trimStart line with
  | '-' :: rest => trimStart rest
  | start => start

/-- The text of a beat and the run of tags behind it. -/
def body? : Text → Option (Text × Text)
  | [] => none
  | c :: rest =>
    if isWordChar c && !(Tag.splitRun rest).1.contains '\n' then
      some (c :: (Tag.splitRun rest).1, (Tag.splitRun rest).2)
    else none

/-- Every way to end a bracket: what it holds, and what follows it. -/
def closings : Text → List (Text × Text)
  | [] => []
  | c :: rest =>
    let later := (closings rest).map fun (inside, tail) => (c :: inside, tail)
    if c = ')' then ([], rest) :: later else later

/-- There is one way for each closing bracket. -/
theorem mem_closings {t inside tail : Text} :
    (inside, tail) ∈ closings t ↔ t = inside ++ ')' :: tail := by
  induction t generalizing inside with
  | nil => simp [closings]
  | cons c rest ih =>
    by_cases hc : c = ')'
    · subst hc
      cases inside with
      | nil => simp [closings, eq_comm]
      | cons d inside => simpa [closings, ih, eq_comm] using and_comm
    · cases inside with
      | nil => simp [closings, hc]
      | cons d inside => simpa [closings, hc, ih, eq_comm] using and_comm

/-- Every way to read an aside, `( … )` or nothing. What it holds is one line, blanks at its ends
apart, and is no aside at all if there is nothing but blanks. -/
def asides : Text → List (Option Text × Text)
  | '(' :: rest =>
    (closings rest).filterMap fun (inside, tail) =>
      if (trim inside).contains '\n' then none else some (nonEmpty? (trim inside), tail)
  | t => [(none, t)]

end Line

/-- The beat of speech on a line. -/
def Speech.ofLine? (line : Text) : Option Speech :=
  let start := Line.afterDash line
  let speaker := start.takeWhile Line.isSpeakerChar
  if speaker.isEmpty then none
  else
    (Line.asides (trimStart (start.dropWhile Line.isSpeakerChar))).findSome?
      fun (qualifier, tail) =>
        match trimStart tail with
        | ':' :: tail =>
          (Line.asides (trimStart tail)).findSome? fun (direction, tail) =>
            (Line.body? (trimStart tail)).map fun (text, run) =>
              let (id, tags) := Tag.takeId (Tag.ofRun run)
              ⟨speaker, qualifier, direction, text, id.getD [], tags⟩
        | _ => none

/-- The beat of action on a line. -/
def Action.ofLine? (line : Text) : Option Action := do
  let (text, run) ← Line.body? (Line.afterDash line)
  if (words run).isEmpty then none
  else
    let (id, tags) := Tag.takeId (Tag.ofRun run)
    some ⟨text, id.getD [], tags⟩

end Beatsheet

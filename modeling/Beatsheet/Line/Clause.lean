/-
# Beatsheet.Line.Clause — clauses

The arms of a condition are clauses. A clause behind a dash, `- x > 2:`, may have content after its
colon, which is a fault of the script; a clause on its own, `2:` or `(retry):`, is a label. What
looks like a speaker, a name in capitals with or without a bracket behind it, is no clause.
-/
import Beatsheet.Text.Basic

set_option autoImplicit false

namespace Beatsheet

open Text

/-- The characters in the name of a speaker. -/
def Line.isSpeakerChar (c : Char) : Bool :=
  c.isUpper || c.isDigit || c == '_'

/-- Whether a clause is really a speaker: a name led by a capital, and at most one bracket. -/
def Line.isSpeaker : Text → Bool
  | [] => false
  | c :: rest =>
    c.isUpper &&
      (match rest.dropWhile Line.isSpeakerChar with
        | [] => true
        | tail =>
          match trimStart tail with
          | '(' :: inside => inside.dropWhile (· != ')') == [')']
          | _ => false)

/-- A clause behind a dash, and what its line has after the colon. -/
structure Clause where
  condition : Text
  rest : Text
  deriving DecidableEq, Repr

namespace Clause

/-- What follows blanks, a colon and more blanks, if it is the end of one line. -/
def afterColon? (t : Text) : Option Text :=
  match trimStart t with
  | ':' :: rest => if (trimStart rest).contains '\n' then none else some (trimStart rest)
  | _ => none

/-- The shortest condition, of at least one character and without `#`, that a colon can follow. -/
def split? : Text → Option Clause
  | [] => none
  | c :: rest =>
    if c = '#' then none
    else
      match afterColon? rest with
      | some tail => some ⟨[c], trim tail⟩
      | none => (split? rest).map fun clause => { clause with condition := c :: clause.condition }

/-- The clause of a line. A condition starts at the first character that is not blank; only where
none can start there does it take the last blank after the dash. -/
def ofLine? (line : Text) : Option Clause := do
  let clause ←
    match trimStart line with
    | '-' :: rest =>
      match (rest.takeWhile isBlank).getLast? with
      | none => split? rest
      | some blank => split? (trimStart rest) <|> split? (blank :: trimStart rest)
    | _ => none
  if Line.isSpeaker clause.condition then none else some clause

end Clause

namespace Line

/-- The characters a label may not start with, a bracket apart. -/
def isLabelStart (c : Char) : Bool :=
  !("#-*+=/{}(".toList.contains c || isBlank c)

/-- Whether nothing is left of a label but its colon. -/
def endsLabel (t : Text) : Bool :=
  match trimStart t with
  | ':' :: rest => rest.all isBlank
  | _ => false

/-- The rest of a label, up to the first place where it may end. Inside a bracket all characters may
stand; outside there is no blank and no `#`. -/
def labelRest? : (inside : Bool) → Text → Option Text
  | _, [] => none
  | true, c :: rest => (labelRest? (c != ')') rest).map (c :: ·)
  | false, c :: rest =>
    if endsLabel (c :: rest) then some []
    else if c == '#' || isBlank c then none
    else (labelRest? (c == '(') rest).map (c :: ·)

/-- The label of a line that has a clause and its colon and nothing else. -/
def label? (line : Text) : Option Text := do
  let label ←
    match line with
    | [] => none
    | c :: rest =>
      if c == '(' || isLabelStart c then (labelRest? (c == '(') rest).map (c :: ·) else none
  if isSpeaker label then none else some label

end Line

end Beatsheet

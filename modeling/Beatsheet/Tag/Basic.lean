/-
# Beatsheet.Tag.Basic — tags

A tag is written `#token`. A token of the form `id:name` declares the identifier of the line it
stands on. Tags are read from three places: a text made of `#token` groups only (`groups?`), the run
of tags that ends a beat (`ofRun`), and a line that stays outside the beats but declares exactly one
identifier (`Tagged.ofLine?`).
-/
import Beatsheet.Text.Basic

set_option autoImplicit false

namespace Beatsheet.Tag

open Text

/-! ## Identifiers -/

/-- What a token that declares an identifier begins with. -/
def idMark : Text :=
  "id:".toList

/-- The identifier a token declares: what follows `id:`, if something does. -/
def id? (token : Text) : Option Text :=
  (after? idMark token).bind nonEmpty?

/-- The first identifier declared, and the tokens without the one that declares it. -/
def takeId : List Text → Option Text × List Text
  | [] => (none, [])
  | token :: rest =>
    match id? token with
    | some name => (some name, rest)
    | none => ((takeId rest).1, token :: (takeId rest).2)

/-! ## Groups -/

/-- The tokens of a text that starts with `#`: its pieces between the `#` characters, trimmed. One
blank piece spoils all. -/
def groups? : Text → Option (List Text)
  | '#' :: rest =>
    let tokens := (splitWhere (· == '#') rest).map trim
    if tokens.any (·.isEmpty) then none else some tokens
  | _ => none

/-- The tokens of a line that holds nothing but tags. -/
def line? (line : Text) : Option (List Text) :=
  groups? (trim line)

/-! ## Runs at the end of a line -/

/-- A word that is a tag: `#` and something after it. -/
def isMarked : Text → Bool
  | '#' :: _ :: _ => true
  | _ => false

/-- Whether a text is a run of tags: nothing, or words that are all tags with a blank before each,
and blanks behind. -/
def isRun : Text → Bool
  | [] => true
  | c :: rest => isBlank c && (words (c :: rest)).all isMarked

/-- Cuts a text where its longest run of tags begins. -/
def splitRun : Text → Text × Text
  | [] => ([], [])
  | c :: rest =>
    if isRun (c :: rest) then ([], c :: rest) else (c :: (splitRun rest).1, (splitRun rest).2)

theorem splitRun_append (t : Text) : (splitRun t).1 ++ (splitRun t).2 = t := by
  induction t with
  | nil => rfl
  | cons c rest ih =>
    by_cases h : isRun (c :: rest) = true
    · simp [splitRun, h]
    · simp [splitRun, h, ih]

/-- What is cut off is a run. -/
theorem isRun_splitRun (t : Text) : isRun (splitRun t).2 = true := by
  induction t with
  | nil => rfl
  | cons c rest ih =>
    by_cases h : isRun (c :: rest) = true
    · simp [splitRun, h]
    · simpa [splitRun, h] using ih

/-- The blanks that may stand between the tags of a run. -/
def isGap (c : Char) : Bool :=
  c == ' ' || c == '\t' || isBreak c

/-- The tokens of a run of tags. A run with any other blank between its tags has none. -/
def ofRun (run : Text) : List Text :=
  if (trimEnd run).all (fun c => !isBlank c || isGap c) then (words run).map (·.drop 1) else []

end Beatsheet.Tag

namespace Beatsheet

/-- What a line outside the beats declares: its identifier and its other tags. -/
structure Tagged where
  id : Text
  tags : List Text
  deriving DecidableEq, Repr

/-- The tags of a line from its first `#` to its first `]` after that, when exactly one of them
declares an identifier. -/
def Tagged.ofLine? (line : Text) : Option Tagged := do
  let tokens ← Tag.groups? (Text.trimEnd (Text.before ']' (line.dropWhile (· != '#'))))
  match tokens.filterMap Tag.id? with
  | [name] => some ⟨name, (Tag.takeId tokens).2⟩
  | _ => none

end Beatsheet

/-
# Beatsheet.Source.Scan — lines by their places among the bytes

One pass over the bytes of a text finds its lines with two numbers: the place where the line begins
that it is in, and the byte that it comes to next. A line is the slice of the text between two such
places (`slice?`), and only places between its characters bound a slice. The lines that are found
so are those of `Text.lines`.
-/
import Beatsheet.Text.Basic

set_option autoImplicit false

namespace Beatsheet

/-- The slice between two places among the bytes of a text: none if they are out of order, or if one
of them is beyond the end or inside a character. -/
def slice? (s : String) (start stop : Nat) : Option String.Slice :=
  if valid : start ≤ stop ∧ String.Pos.Raw.IsValid s ⟨start⟩ ∧ String.Pos.Raw.IsValid s ⟨stop⟩ then
    some ⟨s, ⟨⟨start⟩, valid.2.1⟩, ⟨⟨stop⟩, valid.2.2⟩, valid.1⟩
  else none

/-- A pass over the bytes of a text. -/
structure ByteScan where
  /-- Where the line begins that the pass is in. -/
  start : Nat
  /-- The byte that it comes to next. -/
  next : Nat
  /-- The lines that have ended. -/
  ended : List String.Slice

namespace ByteScan

variable (s : String) (scan : ByteScan)

/-- The line ends in front of the next byte, and what comes after its end begins at `behind`. -/
def endLine? (behind : Nat) : Option ByteScan :=
  (slice? s scan.start scan.next).map fun line => ⟨behind, behind, scan.ended ++ [line]⟩

/-- Goes past the next byte, and past an LF behind a CR together with it. -/
def step? (within : scan.next < s.toByteArray.size) : Option ByteScan :=
  let byte := s.toByteArray[scan.next]
  if byte = '\r'.toUInt8 then
    let paired := s.toByteArray[scan.next + 1]? = some '\n'.toUInt8
    scan.endLine? s (if paired then scan.next + 2 else scan.next + 1)
  else if byte = '\n'.toUInt8 then
    scan.endLine? s (scan.next + 1)
  else
    some { scan with next := scan.next + 1 }

variable {s scan} {later : ByteScan}

theorem next_of_endLine? {behind : Nat} (goesOn : scan.endLine? s behind = some later) :
    later.next = behind := by
  obtain ⟨line, -, rfl⟩ := Option.map_eq_some_iff.mp goesOn
  rfl

theorem next_lt_of_step? {within : scan.next < s.toByteArray.size}
    (goesOn : scan.step? s within = some later) : scan.next < later.next := by
  simp only [step?] at goesOn
  split at goesOn
  · rw [next_of_endLine? goesOn]
    split <;> omega
  · split at goesOn
    · rw [next_of_endLine? goesOn]
      omega
    · obtain rfl := Option.some.inj goesOn
      exact Nat.lt_succ_self _

variable (s scan)

/-- The pass to the end of the text, where the last line ends. -/
def run? (scan : ByteScan) : Option (List String.Slice) :=
  if within : scan.next < s.toByteArray.size then
    match goesOn : scan.step? s within with
    | some later =>
      have := next_lt_of_step? goesOn
      run? later
    | none => none
  else
    (slice? s scan.start s.toByteArray.size).map fun line => scan.ended ++ [line]
termination_by s.toByteArray.size - scan.next
decreasing_by omega

/-- The lines of a text, if there are slices at all places where the pass takes one. -/
def lines? (t : Text) : Option (List String.Slice) :=
  run? (String.ofList t) ⟨0, 0, []⟩

end ByteScan

end Beatsheet

/-
# Beatsheet.Source.Line — lines of a source

A line ends with CR LF, with LF or with CR; what follows the last of these is a line too, even an
empty one, so a text has one line more than it has line ends. The lines of a source are those of its
text without byte order marks in front and without block comments, numbered from one. A source that
is empty but for byte order marks has no lines.
-/
import Beatsheet.Origin
import Beatsheet.Source.BlockComment

set_option autoImplicit false

namespace Beatsheet

/-- The lines of a text, without their ends. -/
def Text.lines : Text → List Text
  | [] => [[]]
  | '\r' :: '\n' :: rest => [] :: Text.lines rest
  | c :: rest => if Text.isBreak c then [] :: Text.lines rest else Text.consHead c (Text.lines rest)

/-- No line holds a line end. -/
theorem Text.not_isBreak_of_mem_lines {t line : Text} {c : Char} (hl : line ∈ Text.lines t)
    (hc : c ∈ line) : Text.isBreak c = false := by
  fun_induction Text.lines t generalizing line with
  | case1 => simp_all
  | case2 rest ih =>
    rcases List.mem_cons.1 hl with rfl | hl
    · simp at hc
    · exact ih hl hc
  | case3 d rest _ hd ih =>
    rcases List.mem_cons.1 hl with rfl | hl
    · simp at hc
    · exact ih hl hc
  | case4 d rest _ hd ih =>
    cases hs : Text.lines rest with
    | nil =>
      simp only [hs, Text.consHead, List.mem_singleton] at hl
      subst hl
      simp_all
    | cons first others =>
      simp only [hs, Text.consHead, List.mem_cons] at hl
      rcases hl with rfl | hl
      · rcases List.mem_cons.1 hc with rfl | hc
        · simpa using hd
        · exact ih (by simp [hs]) hc
      · exact ih (by simp [hs, hl]) hc

/-- A line of a source and where it stands. -/
structure SourceLine where
  text : Text
  origin : Origin
  deriving DecidableEq, Repr, Inhabited

/-- Numbers lines from `first` on. -/
def SourceLine.number (path : Text) : (first : Nat) → List Text → List SourceLine
  | _, [] => []
  | n, t :: rest => ⟨t, ⟨path, n⟩⟩ :: SourceLine.number path (n + 1) rest

/-- The lines of a source. -/
def SourceLine.ofSource (path source : Text) : List SourceLine :=
  match source.dropWhile (· == '\uFEFF') with
  | [] => []
  | body => SourceLine.number path 1 (Text.lines (BlockComment.strip body))

end Beatsheet

/-
# Beatsheet.Proofs.Draft.Site — sites

A site is a line of a script together with the lines before it, so that what a line does can be told
from its site alone: the draft it finds is the draft of the lines before it (`Site.draft`). The
sites of a script are its lines, in their order (`map_line_sites`).
-/
import Beatsheet.Proofs.Draft.Move

set_option autoImplicit false

namespace Beatsheet

structure Site where
  before : List SourceLine
  line : SourceLine
  deriving DecidableEq, Repr

/-- The sites of some lines that stand behind others. -/
def sitesAfter (before : List SourceLine) : List SourceLine → List Site
  | [] => []
  | line :: rest => ⟨before, line⟩ :: sitesAfter (before ++ [line]) rest

/-- The sites of a script, in its order. -/
def sites (lines : List SourceLine) : List Site :=
  sitesAfter [] lines

theorem sitesAfter_append (before xs ys : List SourceLine) :
    sitesAfter before (xs ++ ys) = sitesAfter before xs ++ sitesAfter (before ++ xs) ys := by
  induction xs generalizing before with
  | nil => simp [sitesAfter]
  | cons line rest ih => simp [sitesAfter, ih]

@[simp] theorem sites_concat (lines : List SourceLine) (line : SourceLine) :
    sites (lines ++ [line]) = sites lines ++ [⟨lines, line⟩] := by
  simp [sites, sitesAfter_append, sitesAfter]

/-- The lines of the sites are the lines of the script. -/
theorem map_line_sites (lines : List SourceLine) : (sites lines).map (·.line) = lines := by
  induction lines using List.reverseRecOn with
  | nil => rfl
  | append_singleton rest line ih => simp [ih]

/-- What stands before a site, and its line, begins the script. -/
theorem prefix_of_mem_sites {lines : List SourceLine} {s : Site} (member : s ∈ sites lines) :
    s.before ++ [s.line] <+: lines := by
  induction lines using List.reverseRecOn with
  | nil => cases member
  | append_singleton rest line ih =>
      rw [sites_concat] at member
      rcases List.mem_append.mp member with old | new
      · exact (ih old).trans (List.prefix_append rest [line])
      · rw [List.mem_singleton] at new
        subst new
        exact List.prefix_rfl

/-- Of two sites the line of the earlier one stands before the later one. -/
theorem pairwise_sites (lines : List SourceLine) :
    (sites lines).Pairwise fun s t => s.before ++ [s.line] <+: t.before := by
  induction lines using List.reverseRecOn with
  | nil => exact .nil
  | append_singleton rest line ih =>
      rw [sites_concat, List.pairwise_append]
      refine ⟨ih, List.pairwise_singleton _ _, fun s member t new => ?_⟩
      rw [List.mem_singleton] at new
      subst new
      exact prefix_of_mem_sites member

/-- The draft that the line of a site finds. -/
def Site.draft (s : Site) : Draft :=
  Draft.upTo s.before

/-! ## What a line is by itself -/

namespace SourceLine

def kind (line : SourceLine) : Kind :=
  (Reading.ofLine line.text).kind

/-- The ways to read the line, if it is prose. -/
def prose? (line : SourceLine) : Option Prose :=
  match line.kind with
  | .content _ (.prose ways) => some ways
  | _ => none

/-- Content is told by its text. -/
theorem content_eq {line : SourceLine} {turn : Option Turn} {role : Role}
    (kind : line.kind = .content turn role) :
    turn = Turn.ofLine? (Reading.ofLine line.text).body ∧
      role = Role.ofLine (Reading.ofLine line.text).body := by
  have ofBody : line.kind = Kind.ofLine (Reading.ofLine line.text).body := rfl
  rw [ofBody, Kind.ofLine] at kind
  split at kind
  · cases kind
  · split at kind
    · cases kind
    · split at kind
      · cases kind
      · obtain ⟨rfl, rfl⟩ := Kind.content.inj kind
        exact ⟨rfl, rfl⟩

end SourceLine

end Beatsheet

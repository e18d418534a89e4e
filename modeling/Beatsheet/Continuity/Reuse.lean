/-
# Beatsheet.Continuity.Reuse — reuse of identifiers

A snippet takes over the identifier of the earlier snippet whose beats overlap its own the most, if
the overlap reaches a threshold. Of equal overlaps the earlier candidate wins. Two snippets may take
over the same identifier.
-/
import Beatsheet.Continuity.Overlap
import Beatsheet.Forest.Basic

set_option autoImplicit false

namespace Beatsheet

/-- An earlier snippet, as far as it matters here. -/
structure Candidate where
  id : Text
  beats : List Text
  deriving DecidableEq, Repr

namespace Candidate

def ofSnippet (s : Snippet Text) : Candidate :=
  ⟨s.id, comparable (s.beats.map (·.id))⟩

/-- The candidate with the largest overlap, the first of equals. -/
def best? (beats : List Text) (candidates : List Candidate) : Option (Candidate × Overlap) :=
  candidates.foldl
    (fun best candidate =>
      match Overlap.of? beats candidate.beats, best with
      | none, _ => best
      | some overlap, none => some (candidate, overlap)
      | some overlap, some (_, sofar) =>
        if overlap.exceeds sofar then some (candidate, overlap) else best)
    none

/-- The identifier that a snippet with these beats takes over. -/
def reused? (threshold : Float) (candidates : List Candidate) (beats : List Text) : Option Text :=
  match best? (comparable beats) candidates with
  | some (candidate, overlap) => if threshold ≤ overlap.score then some candidate.id else none
  | none => none

end Candidate

/-- What a snippet takes over, given the snippets of an earlier forest. -/
def Snippet.reused? {ι : Type} (threshold : Float) (candidates : List Candidate) (s : Snippet ι) :
    Option Text :=
  Candidate.reused? threshold candidates (s.beats.map (·.id))

def candidates (previous : List (Scene Text)) : List Candidate :=
  (previous.flatMap (·.snippets)).map Candidate.ofSnippet

/-- The scenes with the identifiers of an earlier forest where they are taken over, and how many
are. -/
def reconcile (threshold : Float) (previous scenes : List (Scene Text)) :
    List (Scene Text) × Nat :=
  let candidates := candidates previous
  let taken (s : Snippet Text) : Option Text := s.reused? threshold candidates
  (scenes.map (Scene.map fun s => (taken s).getD s.id),
    (scenes.flatMap (·.snippets)).countP fun s => (taken s).isSome)

end Beatsheet

/-
# Beatsheet.Proofs.Continuity.Best — the best candidate

The scan over the candidates finds the first of those with the largest overlap, and finds none only
if no candidate shares anything (`best?_spec`). The induction is on the candidates from the end, so
that its step is one step of the scan.
-/
import Beatsheet.Continuity.Reuse
import Beatsheet.Proofs.Continuity.Overlap
import Mathlib.Data.List.Induction

set_option autoImplicit false

namespace Beatsheet.Candidate

theorem total_pos_of_of? {new old : List Text} {o : Overlap}
    (overlap : Overlap.of? new old = some o) : 0 < o.total := by
  obtain ⟨meet, rfl⟩ := Overlap.of?_eq_some overlap
  exact Overlap.total_between_pos meet

/-- The candidate has this overlap, no candidate before it has one as large, and none behind it a
larger one. -/
structure Best (beats : List Text) (candidates : List Candidate) (c : Candidate) (o : Overlap) :
    Prop where
  overlap : Overlap.of? beats c.beats = some o
  first : ∃ before after, candidates = before ++ c :: after ∧
    (∀ b ∈ before, ∀ p, Overlap.of? beats b.beats = some p → p.share < o.share) ∧
    (∀ a ∈ after, ∀ p, Overlap.of? beats a.beats = some p → p.share ≤ o.share)

variable {beats : List Text} {candidates : List Candidate} {c : Candidate} {o : Overlap}

theorem Best.mem (best : Best beats candidates c o) : c ∈ candidates := by
  obtain ⟨before, after, rfl, -, -⟩ := best.first
  simp

theorem Best.le (best : Best beats candidates c o) {c' : Candidate} (member : c' ∈ candidates)
    {p : Overlap} (overlap : Overlap.of? beats c'.beats = some p) : p.share ≤ o.share := by
  obtain ⟨before, after, rfl, larger, noSmaller⟩ := best.first
  rcases List.mem_append.mp member with earlier | later
  · exact (larger c' earlier p overlap).le
  · rcases List.mem_cons.mp later with rfl | behind
    · rw [best.overlap] at overlap
      exact Option.some.inj overlap ▸ le_rfl
    · exact noSmaller c' behind p overlap

/-- A candidate behind that has no larger overlap does not replace the best. -/
theorem Best.stays (best : Best beats candidates c o) {last : Candidate}
    (noLarger : ∀ p, Overlap.of? beats last.beats = some p → p.share ≤ o.share) :
    Best beats (candidates ++ [last]) c o := by
  obtain ⟨before, after, rfl, larger, noSmaller⟩ := best.first
  refine ⟨best.overlap, before, after ++ [last], by simp, larger, ?_⟩
  intro a member p shares
  rcases List.mem_append.mp member with old | new
  · exact noSmaller a old p shares
  · rw [List.mem_singleton] at new
    exact noLarger p (new ▸ shares)

/-- A candidate behind that has a larger overlap than all before is the best. -/
theorem Best.concat (overlap : Overlap.of? beats c.beats = some o)
    (larger : ∀ b ∈ candidates, ∀ p, Overlap.of? beats b.beats = some p → p.share < o.share) :
    Best beats (candidates ++ [c]) c o :=
  ⟨overlap, candidates, [], rfl, larger, by simp⟩

theorem best?_concat (beats : List Text) (candidates : List Candidate) (c : Candidate) :
    best? beats (candidates ++ [c]) =
      match Overlap.of? beats c.beats, best? beats candidates with
      | none, best => best
      | some overlap, none => some (c, overlap)
      | some overlap, some (b, sofar) =>
        if overlap.exceeds sofar then some (c, overlap) else some (b, sofar) := by
  simp only [best?, List.foldl_append, List.foldl_cons, List.foldl_nil]
  split
  · simp only [*]
  · simp only [*]
  · simp only [*]

/-- **The scan finds the first candidate with the largest overlap**, if there is an overlap. -/
theorem best?_spec (beats : List Text) (candidates : List Candidate) :
    match best? beats candidates with
    | none => ∀ c ∈ candidates, Overlap.of? beats c.beats = none
    | some (c, o) => Best beats candidates c o := by
  induction candidates using List.reverseRecOn with
  | nil => simp [best?]
  | append_singleton rest last ih =>
      rw [best?_concat]
      cases best : best? beats rest with
      | none =>
          simp only [best] at ih
          cases overlap : Overlap.of? beats last.beats with
          | none =>
              intro c member
              rcases List.mem_append.mp member with old | new
              · exact ih c old
              · rw [List.mem_singleton] at new
                exact new ▸ overlap
          | some o =>
              refine Best.concat overlap fun b member p shares => ?_
              rw [ih b member] at shares
              cases shares
      | some found =>
          simp only [best] at ih
          cases overlap : Overlap.of? beats last.beats with
          | none =>
              refine ih.stays fun p shares => ?_
              rw [overlap] at shares
              cases shares
          | some o =>
              have posLast := total_pos_of_of? overlap
              have posBest := total_pos_of_of? ih.overlap
              dsimp only
              by_cases exceeds : o.exceeds found.2 = true
              · rw [if_pos exceeds]
                rw [Overlap.exceeds_iff posLast posBest] at exceeds
                exact Best.concat overlap fun b member p shares =>
                  (ih.le member shares).trans_lt exceeds
              · rw [if_neg exceeds]
                rw [Overlap.exceeds_iff posLast posBest, not_lt] at exceeds
                refine ih.stays fun p shares => ?_
                rw [overlap] at shares
                exact Option.some.inj shares ▸ exceeds

end Beatsheet.Candidate

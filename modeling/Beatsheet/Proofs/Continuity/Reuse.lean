/-
# Beatsheet.Proofs.Continuity.Reuse — what a snippet is recognised by

A snippet is recognised by its keys, the set of its beats' identifiers as they are compared. An
overlap with the same keys is one, and no threshold that options may have is above that; so if one
earlier snippet alone has the keys of a snippet, the snippet takes over its identifier
(`reused?_of_lone`).
-/
import Beatsheet.Extract
import Beatsheet.Proofs.Continuity.Best
import Beatsheet.Proofs.Extract.Names

set_option autoImplicit false

namespace Beatsheet

def Snippet.keys {ι : Type} (s : Snippet ι) : Finset Text :=
  (comparable (s.beats.map (·.id))).toFinset

/-- Options that pass have a threshold which the whole reaches. -/
theorem Options.minOverlap_le_one {options : Options} (valid : options.validate = .ok options) :
    options.minOverlap ≤ 1.0 := by
  unfold Options.validate at valid
  split at valid
  · cases valid
  · rename_i inRange
    simp only [Bool.not_eq_true', Bool.not_eq_false, Bool.and_eq_true, decide_eq_true_eq] at inRange
    exact inRange.2

theorem Overlap.score_whole {n : Nat} (pos : 0 < n) : Overlap.score ⟨n, n⟩ = 1.0 := by
  rw [Overlap.score, Share.toFloat, Share.bits_self pos]
  rfl

theorem Overlap.between_self (a : Finset Text) : between a a = ⟨a.card, a.card⟩ := by
  rw [between, Finset.inter_self, Finset.union_self]

/-- What the best candidate is if one has the same keys: no other keys overlap as much. -/
theorem Candidate.best?_of_mem {beats : List Text} {candidates : List Candidate} {c : Candidate}
    (member : c ∈ candidates) (same : c.beats.toFinset = beats.toFinset)
    (nonempty : beats.toFinset ≠ ∅) :
    ∃ b ∈ candidates, b.beats.toFinset = beats.toFinset ∧
      best? beats candidates = some (b, Overlap.between beats.toFinset beats.toFinset) := by
  have self : beats.toFinset ∩ beats.toFinset ≠ ∅ := by rwa [Finset.inter_self]
  have overlap : Overlap.of? beats c.beats =
      some (Overlap.between beats.toFinset beats.toFinset) := by
    rw [Overlap.of?_eq, same, if_neg self]
  have whole := (Overlap.share_between_eq_one self).mpr rfl
  have spec := best?_spec beats candidates
  cases best : best? beats candidates with
  | none =>
      simp only [best] at spec
      rw [spec c member] at overlap
      cases overlap
  | some found =>
      obtain ⟨b, o⟩ := found
      simp only [best] at spec
      obtain ⟨meet, rfl⟩ := Overlap.of?_eq_some spec.overlap
      -- No overlap is more than one, and the best is not less than that of the same keys.
      have one : (Overlap.between beats.toFinset b.beats.toFinset).share = 1 := by
        refine le_antisymm (Overlap.share_between_le_one _ _) ?_
        exact whole ▸ spec.le member overlap
      have keys := (Overlap.share_between_eq_one meet).mp one
      exact ⟨b, spec.mem, keys.symm, by rw [← keys]⟩

/-- **A snippet takes over the identifier of the only earlier snippet with its keys**, if it has
keys at all and the threshold is not above one. -/
theorem Snippet.reused?_of_lone {ι : Type} {threshold : Float} (reachable : threshold ≤ 1.0)
    {previous : List (Scene Text)} {p : Snippet Text} {s : Snippet ι} (nonempty : s.keys.Nonempty)
    (lone : (previous.flatMap (·.snippets)).filter (·.keys = s.keys) = [p]) :
    s.reused? threshold (candidates previous) = some p.id := by
  have only : ∀ q, q ∈ previous.flatMap (·.snippets) ∧ q.keys = s.keys ↔ q = p := by
    intro q
    have member : q ∈ (previous.flatMap (·.snippets)).filter (·.keys = s.keys) ↔ q ∈ [p] := by
      rw [lone]
    simpa only [List.mem_filter, decide_eq_true_eq, List.mem_singleton] using member
  obtain ⟨inPrevious, keys⟩ := (only p).mpr rfl
  have member : Candidate.ofSnippet p ∈ candidates previous :=
    List.mem_map.mpr ⟨p, inPrevious, rfl⟩
  have same : (Candidate.ofSnippet p).beats.toFinset =
      (comparable (s.beats.map (·.id))).toFinset := keys
  obtain ⟨b, among, equal, best⟩ := Candidate.best?_of_mem member same nonempty.ne_empty
  obtain ⟨q, there, rfl⟩ := List.mem_map.mp among
  obtain rfl := (only q).mp ⟨there, equal⟩
  have score := Overlap.score_whole (Finset.card_pos.mpr nonempty)
  rw [Snippet.reused?, Candidate.reused?, best]
  simp only [Overlap.between_self]
  rw [if_pos]
  · rfl
  · exact score.symm ▸ reachable

section

variable {σ : Type} {source : IdSource σ} {state : σ} {options : Options}
  {previous : List (Scene Text)} {lines : List SourceLine}

/-- In an extraction a snippet has the identifier that it takes over. -/
theorem id_of_reused {s : Snippet Text}
    (member : s ∈ (extractLines source state options (some previous) lines).extraction.snippets)
    {id : Text} (reused : s.reused? options.minOverlap (candidates previous) = some id) :
    s.id = id := by
  simp only [extractLines, reconcile, Extraction.snippets, List.flatMap_map, List.mem_flatMap,
    Scene.snippets_map, List.mem_map] at member
  obtain ⟨_, _, s, _, rfl⟩ := member
  have taken : s.reused? options.minOverlap (candidates previous) = some id := reused
  simp only [Snippet.map, taken, Option.getD_some]

end

end Beatsheet

/-
# Beatsheet.Proofs.Continuity.Distinct — whether identifiers stay distinct

Every snippet chooses for itself what to take over, so two may choose the same: the parts of a
snippet that was split do at the default threshold (`not_always_distinct`). Nothing else can go
wrong: identifiers that were distinct stay distinct just if no two snippets choose the same
(`distinct_reconcile`). Above one half that takes two snippets with a key in common, since each
would have more than half of the keys of the one they choose.
-/
import Beatsheet.Proofs.Continuity.Reuse
import Beatsheet.Proofs.Number.Half

set_option autoImplicit false

namespace Beatsheet

/-- The identifiers of the snippets of a forest, in their order. -/
def snippetIds (scenes : List (Scene Text)) : List Text :=
  (scenes.flatMap (·.snippets)).map (·.id)

variable {threshold : Float} {previous scenes : List (Scene Text)}

/-- What is taken over belongs to an earlier snippet that shares enough. -/
theorem Snippet.exists_of_reused? {ι : Type} {s : Snippet ι} {id : Text}
    (takes : s.reused? threshold (candidates previous) = some id) :
    ∃ p ∈ previous.flatMap (·.snippets), p.id = id ∧ s.keys ∩ p.keys ≠ ∅ ∧
      threshold ≤ (Overlap.between s.keys p.keys).score := by
  unfold Snippet.reused? Candidate.reused? at takes
  have spec := Candidate.best?_spec (comparable (s.beats.map (·.id))) (candidates previous)
  cases best : Candidate.best? (comparable (s.beats.map (·.id))) (candidates previous) with
  | none => simp only [best] at takes; cases takes
  | some found =>
      obtain ⟨c, o⟩ := found
      simp only [best] at spec takes
      obtain ⟨p, inPrevious, rfl⟩ := List.mem_map.mp spec.mem
      obtain ⟨meet, rfl⟩ := Overlap.of?_eq_some spec.overlap
      split at takes
      · rename_i reached
        exact ⟨p, inPrevious, Option.some.inj takes, meet, reached⟩
      · cases takes

/-- Two sets without common elements cannot both have more than half of what is in either of them
and a third. -/
theorem not_disjoint_of_halves {a b p : Finset Text} (first : (a ∪ p).card < 2 * (a ∩ p).card)
    (second : (b ∪ p).card < 2 * (b ∩ p).card) : ¬ Disjoint a b := by
  intro disjoint
  have parts : (a ∩ p).card + (b ∩ p).card ≤ p.card := by
    rw [← Finset.card_union_of_disjoint
      (disjoint.mono Finset.inter_subset_left Finset.inter_subset_left)]
    refine Finset.card_le_card (Finset.union_subset ?_ ?_)
    · exact Finset.inter_subset_right
    · exact Finset.inter_subset_right
  have wholeFirst : p.card ≤ (a ∪ p).card := Finset.card_le_card Finset.subset_union_right
  have wholeSecond : p.card ≤ (b ∪ p).card := Finset.card_le_card Finset.subset_union_right
  omega

theorem Overlap.lt_of_reached {a b : Finset Text} (meet : a ∩ b ≠ ∅) (above : 0.5 < threshold)
    (reached : threshold ≤ (between a b).score) : (a ∪ b).card < 2 * (a ∩ b).card :=
  Share.lt_of_reached (Finset.card_pos.mpr (Finset.nonempty_iff_ne_empty.mpr meet)) above reached

theorem snippetIds_reconcile (threshold : Float) (previous scenes : List (Scene Text)) :
    snippetIds (reconcile threshold previous scenes).1 =
      (scenes.flatMap (·.snippets)).map fun s =>
        (s.reused? threshold (candidates previous)).getD s.id := by
  simp only [snippetIds, reconcile, List.flatMap_map, Scene.snippets_map, List.map_flatMap,
    List.map_map]
  rfl

/-- Two snippets that choose the same earlier one have a key in common, above one half. -/
theorem not_disjoint_of_reused? (above : 0.5 < threshold)
    (earlier : (snippetIds previous).Nodup) {s t : Snippet Text} {id : Text}
    (first : s.reused? threshold (candidates previous) = some id)
    (second : t.reused? threshold (candidates previous) = some id) :
    ¬ Disjoint s.keys t.keys := by
  obtain ⟨p, inPrevious, idFirst, meetFirst, reachedFirst⟩ := Snippet.exists_of_reused? first
  obtain ⟨q, inPrevious', idSecond, meetSecond, reachedSecond⟩ := Snippet.exists_of_reused? second
  obtain rfl := List.inj_on_of_nodup_map earlier inPrevious inPrevious'
    (idFirst.trans idSecond.symm)
  exact not_disjoint_of_halves (Overlap.lt_of_reached meetFirst above reachedFirst)
    (Overlap.lt_of_reached meetSecond above reachedSecond)

/-- Among snippets with distinct identifiers, none of them an earlier one, only those that take over
the same identifier have the same afterwards. -/
theorem getD_reused?_ne_iff {s t : Snippet Text} (distinct : s.id ≠ t.id)
    (newFirst : s.id ∉ snippetIds previous) (newSecond : t.id ∉ snippetIds previous) :
    (s.reused? threshold (candidates previous)).getD s.id ≠
        (t.reused? threshold (candidates previous)).getD t.id ↔
      ∀ id, s.reused? threshold (candidates previous) = some id →
        t.reused? threshold (candidates previous) ≠ some id := by
  have earlier : ∀ {u : Snippet Text} {id : Text},
      u.reused? threshold (candidates previous) = some id → id ∈ snippetIds previous := by
    intro u id takes
    obtain ⟨p, inPrevious, idP, _⟩ := Snippet.exists_of_reused? takes
    exact List.mem_map.mpr ⟨p, inPrevious, idP⟩
  cases takesFirst : s.reused? threshold (candidates previous) with
  | none =>
      cases takesSecond : t.reused? threshold (candidates previous) with
      | none => simpa using distinct
      | some id =>
          have kept : s.id ≠ id := fun same => newFirst (same ▸ earlier takesSecond)
          simpa using kept
  | some id =>
      cases takesSecond : t.reused? threshold (candidates previous) with
      | none =>
          have kept : id ≠ t.id := fun same => newSecond (same ▸ earlier takesFirst)
          simpa using kept
      | some id' => simp [eq_comm]

/-- **Distinct identifiers stay distinct just if no two snippets take over the same one**, and above
one half no two do whose keys are disjoint. -/
theorem distinct_reconcile (threshold : Float) (previous scenes : List (Scene Text))
    (distinct : (snippetIds scenes ++ snippetIds previous).Nodup) :
    ((snippetIds (reconcile threshold previous scenes).1).Nodup ↔
      (scenes.flatMap (·.snippets)).Pairwise fun s t =>
        ∀ id, s.reused? threshold (candidates previous) = some id →
          t.reused? threshold (candidates previous) ≠ some id) ∧
    (0.5 < threshold →
      (scenes.flatMap (·.snippets)).Pairwise (fun s t => Disjoint s.keys t.keys) →
        (snippetIds (reconcile threshold previous scenes).1).Nodup) := by
  obtain ⟨distinctNew, distinctOld, apart⟩ := List.nodup_append.mp distinct
  have new : ∀ s ∈ scenes.flatMap (·.snippets), s.id ∉ snippetIds previous :=
    fun s member old => apart s.id (List.mem_map_of_mem member) s.id old rfl
  have pairs : (scenes.flatMap (·.snippets)).Pairwise fun s t => s.id ≠ t.id :=
    List.pairwise_map.mp distinctNew
  have exactly : (snippetIds (reconcile threshold previous scenes).1).Nodup ↔
      (scenes.flatMap (·.snippets)).Pairwise fun s t =>
        ∀ id, s.reused? threshold (candidates previous) = some id →
          t.reused? threshold (candidates previous) ≠ some id := by
    rw [snippetIds_reconcile, List.Nodup, List.pairwise_map]
    constructor
    · intro after
      refine (pairs.and after).imp_of_mem fun {s t} inS inT both => ?_
      exact (getD_reused?_ne_iff both.1 (new s inS) (new t inT)).mp both.2
    · intro choices
      refine (pairs.and choices).imp_of_mem fun {s t} inS inT both => ?_
      exact (getD_reused?_ne_iff both.1 (new s inS) (new t inT)).mpr both.2
  refine ⟨exactly, fun above disjoint => exactly.mpr (disjoint.imp ?_)⟩
  intro s t apart id first second
  exact not_disjoint_of_reused? above distinctOld first second apart

/-! ## Poles -/

/-- A forest of one block that holds these snippets, each given by its name and its beats' names. -/
def forestOf (snippets : List (String × List String)) : List (Scene Text) :=
  let beat (id : String) : Beat := { id := id.toList, part := .action none, text := [] }
  let snippet (s : String × List String) : Snippet Text :=
    { id := s.1.toList, beats := s.2.map beat }
  [{ id := [], blocks := [{ snippets := snippets.map snippet }] }]

/-- One part of a snippet has three quarters of it, and the other part keeps its own identifier. -/
theorem distinct_reconcile_of_parts :
    (snippetIds (reconcile 0.75 (forestOf [("P", ["a", "b", "c", "d"])])
      (forestOf [("N", ["a", "b", "C"]), ("M", ["d"])])).1).Nodup :=
  (distinct_reconcile 0.75 _ _ (by decide +kernel)).2 (by decide +kernel) (by decide +kernel)

/-- Both halves of a snippet reach one half. -/
theorem not_always_distinct :
    ¬ ∀ (threshold : Float) (previous scenes : List (Scene Text)),
      0.0 ≤ threshold → threshold ≤ 1.0 → (snippetIds scenes ++ snippetIds previous).Nodup →
        (snippetIds (reconcile threshold previous scenes).1).Nodup := by
  intro claim
  have halves := claim 0.5 (forestOf [("P", ["a", "b"])]) (forestOf [("N1", ["a"]), ("N2", ["b"])])
    (by decide +kernel) (by decide +kernel) (by decide +kernel)
  revert halves
  decide +kernel

end Beatsheet

/-
# Beatsheet.Proofs.Continuity.Taken — what a snippet takes over

A snippet takes over the identifier of the earlier snippet that has the largest share of its keys,
the first of those with equal shares (`Closest`), if the number nearest to that share reaches the
threshold. `Candidate.reused?_closest` says this for every list of earlier snippets, and what shares
and keys are; that shares of sets with fewer than `2 ^ 26` elements are in the order of the numbers
nearest to them is why it does not matter that the scan compares fractions.
-/
import Beatsheet.Proofs.Continuity.Distinct
import Beatsheet.Proofs.Number.Order

set_option autoImplicit false

namespace Beatsheet

/-- The keys that identifiers are compared by. -/
def keySet (ids : List Text) : Finset Text :=
  (comparable ids).toFinset

theorem mem_keySet {ids : List Text} {key : Text} :
    key ∈ keySet ids ↔ ∃ id ∈ ids, id ≠ [] ∧ Text.lowerCase id = key := by
  simp only [keySet, comparable, List.mem_toFinset, List.mem_map, List.mem_filter,
    Bool.not_eq_true', List.isEmpty_eq_false_iff, and_assoc]

namespace Overlap

variable {a b c d : Finset Text}

theorem of?_comparable (new old : List Text) :
    of? (comparable new) (comparable old) =
      if keySet new ∩ keySet old = ∅ then none else some (between (keySet new) (keySet old)) :=
  of?_eq (comparable new) (comparable old)

theorem of?_comm (new old : List Text) : of? new old = of? old new := by
  simp only [of?_eq, between, Finset.inter_comm, Finset.union_comm]

theorem shared_between_pos (meet : a ∩ b ≠ ∅) : 0 < (between a b).shared :=
  Finset.card_pos.mpr (Finset.nonempty_iff_ne_empty.mpr meet)

theorem share_between_pos (meet : a ∩ b ≠ ∅) : 0 < (between a b).share := by
  have shared : (0 : ℚ) < (between a b).shared := by exact_mod_cast shared_between_pos meet
  have total : (0 : ℚ) < (between a b).total := by exact_mod_cast total_between_pos meet
  exact div_pos shared total

theorem share_between_of_disjoint (disjoint : a ∩ b = ∅) : (between a b).share = 0 := by
  simp [share, between, disjoint]

/-- Shares are compared by multiplying crosswise, and so are the numbers nearest to them. -/
theorem share_between_lt_iff (meet : a ∩ b ≠ ∅) (meet' : c ∩ d ≠ ∅) :
    (between a b).share < (between c d).share ↔
      (between a b).shared * (between c d).total < (between c d).shared * (between a b).total := by
  rw [← exceeds_iff (total_between_pos meet') (total_between_pos meet), exceeds, decide_eq_true_iff]

/-- Equal shares have the same number nearest to them. -/
theorem score_between_eq (meet : a ∩ b ≠ ∅) (meet' : c ∩ d ≠ ∅)
    (same : (between a b).share = (between c d).share) :
    (between a b).score = (between c d).score := by
  have product : (between a b).shared * (between c d).total =
      (between c d).shared * (between a b).total := by
    refine Nat.le_antisymm (Nat.le_of_not_lt fun more => ?_) (Nat.le_of_not_lt fun less => ?_)
    · exact same.not_gt ((share_between_lt_iff meet' meet).mpr more)
    · exact same.not_lt ((share_between_lt_iff meet meet').mpr less)
  rw [score, score, Share.toFloat, Share.toFloat, Share.bits_eq (shared_between_pos meet)
    (shared_le_total a b) (shared_between_pos meet') (shared_le_total c d) product]

theorem shared_add_total_between (a b : Finset Text) :
    (between a b).shared + (between a b).total = a.card + b.card := by
  rw [between, Nat.add_comm, Finset.card_union_add_card_inter]

/-- **Numbers are in the order of the shares they are nearest to**, if the sets are small. -/
theorem score_between_lt_iff (meet : a ∩ b ≠ ∅) (small : a.card + b.card < 2 ^ 27)
    (meet' : c ∩ d ≠ ∅) (small' : c.card + d.card < 2 ^ 27) :
    (between a b).score < (between c d).score ↔ (between a b).share < (between c d).share := by
  rw [share_between_lt_iff meet meet']
  rw [← shared_add_total_between] at small small'
  exact Share.toFloat_lt_iff (shared_between_pos meet) (shared_le_total a b) small
    (shared_between_pos meet') (shared_le_total c d) small'

theorem isNaN_score_between (meet : a ∩ b ≠ ∅) (small : a.card + b.card < 2 ^ 27) :
    (between a b).score.isNaN = false := by
  rw [← shared_add_total_between] at small
  exact Share.isNaN_toFloat (shared_between_pos meet) (shared_le_total a b) (by omega)

end Overlap

/-! ## The closest snippet -/

/-- How large a part a snippet shares with these keys. -/
def Snippet.share (keys : Finset Text) (s : Snippet Text) : ℚ :=
  (Overlap.between keys s.keys).share

/-- The same, as it is measured against a threshold. -/
def Snippet.score (keys : Finset Text) (s : Snippet Text) : Float :=
  (Overlap.between keys s.keys).score

/-- The snippet shares some of the keys, none before it shares as large a part, and none behind it
a larger one. -/
structure Closest (keys : Finset Text) (existing : List (Snippet Text)) (s : Snippet Text) :
    Prop where
  meets : keys ∩ s.keys ≠ ∅
  first : ∃ before after, existing = before ++ s :: after ∧
    (∀ b ∈ before, b.share keys < s.share keys) ∧ ∀ a ∈ after, a.share keys ≤ s.share keys

namespace Closest

variable {keys : Finset Text} {existing : List (Snippet Text)} {s t : Snippet Text}

theorem mem (closest : Closest keys existing s) : s ∈ existing := by
  obtain ⟨before, after, rfl, -, -⟩ := closest.first
  simp

theorem le (closest : Closest keys existing s) (member : t ∈ existing) :
    t.share keys ≤ s.share keys := by
  obtain ⟨before, after, rfl, larger, noSmaller⟩ := closest.first
  rcases List.mem_append.mp member with earlier | later
  · exact (larger t earlier).le
  · rcases List.mem_cons.mp later with rfl | behind
    · exact le_rfl
    · exact noSmaller t behind

/-- Where one stands before the other, the other has a larger share and no larger one. -/
theorem eq_of_append {before after between_ behind : List (Snippet Text)}
    (noSmaller : ∀ a ∈ after, a.share keys ≤ s.share keys)
    (larger : ∀ b ∈ before ++ between_, b.share keys < t.share keys)
    (same : s :: after = between_ ++ t :: behind) : s = t := by
  cases between_ with
  | nil => exact (List.cons.inj same).1
  | cons first rest =>
      obtain ⟨rfl, rfl⟩ := List.cons.inj same
      have less := larger s (by simp)
      have noLess := noSmaller t (by simp)
      exact absurd less noLess.not_gt

/-- Only what identifies the earlier snippets and their keys count. -/
theorem exists_of_same {existing' : List (Snippet Text)} (closest : Closest keys existing s)
    (same : existing'.map (fun s => (s.id, s.keys)) = existing.map fun s => (s.id, s.keys)) :
    ∃ t, Closest keys existing' t ∧ t.id = s.id ∧ t.keys = s.keys := by
  obtain ⟨before, after, rfl, larger, noSmaller⟩ := closest.first
  rw [List.map_append, List.map_cons] at same
  obtain ⟨before', rest, rfl, sameBefore, tail⟩ := List.map_eq_append_iff.mp same
  obtain ⟨t, after', rfl, sameSnippet, sameAfter⟩ := List.map_eq_cons_iff.mp tail
  obtain ⟨id, keys_⟩ := Prod.mk.inj sameSnippet
  have counterpart : ∀ {xs ys : List (Snippet Text)},
      xs.map (fun s => (s.id, s.keys)) = ys.map (fun s => (s.id, s.keys)) →
      ∀ x ∈ xs, ∃ y ∈ ys, y.share keys = x.share keys := by
    intro xs ys sameLists x member
    have image := sameLists ▸ List.mem_map_of_mem member
    obtain ⟨y, among, pair⟩ := List.mem_map.mp image
    exact ⟨y, among, by rw [Snippet.share, Snippet.share, (Prod.mk.inj pair).2]⟩
  have share : t.share keys = s.share keys := by rw [Snippet.share, Snippet.share, keys_]
  refine ⟨t, ⟨keys_ ▸ closest.meets, before', after', rfl, fun b member => ?_,
    fun a member => ?_⟩, id, keys_⟩
  · obtain ⟨b', earlier, shareB⟩ := counterpart sameBefore b member
    exact shareB ▸ share ▸ larger b' earlier
  · obtain ⟨a', behind, shareA⟩ := counterpart sameAfter a member
    exact shareA ▸ share ▸ noSmaller a' behind

theorem unique (closest : Closest keys existing s) (closest' : Closest keys existing t) :
    s = t := by
  obtain ⟨before, after, rfl, larger, noSmaller⟩ := closest.first
  obtain ⟨before', after', same, larger', noSmaller'⟩ := closest'.first
  rcases List.append_eq_append_iff.mp same with ⟨rest, rfl, tail⟩ | ⟨rest, rfl, tail⟩
  · exact eq_of_append noSmaller larger' tail
  · exact (eq_of_append noSmaller' larger tail).symm

end Closest

namespace Candidate

variable {threshold : Float} {ids : List Text} {existing : List (Snippet Text)} {s : Snippet Text}

theorem of?_ofSnippet (ids : List Text) (s : Snippet Text) :
    Overlap.of? (comparable ids) (ofSnippet s).beats =
      if keySet ids ∩ s.keys = ∅ then none else some (Overlap.between (keySet ids) s.keys) :=
  Overlap.of?_eq (comparable ids) (ofSnippet s).beats

/-- What the scan finds is the closest snippet. -/
theorem Best.closest {c : Candidate} {o : Overlap}
    (best : Best (comparable ids) (existing.map ofSnippet) c o) :
    ∃ s, Closest (keySet ids) existing s ∧ c = ofSnippet s ∧
      o = Overlap.between (keySet ids) s.keys := by
  obtain ⟨before, after, parts, larger, noSmaller⟩ := best.first
  obtain ⟨before, rest, rfl, rfl, tail⟩ := List.map_eq_append_iff.mp parts
  obtain ⟨s, after, rfl, rfl, rfl⟩ := List.map_eq_cons_iff.mp tail
  obtain ⟨meets, overlap⟩ := Overlap.of?_eq_some best.overlap
  refine ⟨s, ⟨meets, before, after, rfl, fun b member => ?_, fun a member => ?_⟩, rfl, overlap⟩
  -- A snippet that shares nothing has no overlap, and its share is zero.
  · rw [Snippet.share, Snippet.share]
    by_cases meet : keySet ids ∩ b.keys = ∅
    · rw [Overlap.share_between_of_disjoint meet]
      exact Overlap.share_between_pos meets
    · have overlapB := (of?_ofSnippet ids b).trans (if_neg meet)
      have less := larger _ (List.mem_map_of_mem member) _ overlapB
      rwa [overlap] at less
  · rw [Snippet.share, Snippet.share]
    by_cases meet : keySet ids ∩ a.keys = ∅
    · rw [Overlap.share_between_of_disjoint meet]
      exact (Overlap.share_between_pos meets).le
    · have overlapA := (of?_ofSnippet ids a).trans (if_neg meet)
      have le := noSmaller _ (List.mem_map_of_mem member) _ overlapA
      rwa [overlap] at le

/-- There is a closest snippet, unless none shares a key. -/
theorem reused?_cases (threshold : Float) (ids : List Text) (existing : List (Snippet Text)) :
    (∀ s ∈ existing, keySet ids ∩ s.keys = ∅) ∧
        reused? threshold (existing.map ofSnippet) ids = none ∨
      ∃ s, Closest (keySet ids) existing s ∧ reused? threshold (existing.map ofSnippet) ids =
        if threshold ≤ s.score (keySet ids) then some s.id else none := by
  have spec := best?_spec (comparable ids) (existing.map ofSnippet)
  unfold reused?
  cases best : best? (comparable ids) (existing.map ofSnippet) with
  | none =>
      refine .inl ⟨fun s member => ?_, rfl⟩
      simp only [best] at spec
      have nothing := spec _ (List.mem_map_of_mem member)
      rw [of?_ofSnippet] at nothing
      by_contra meet
      rw [if_neg meet] at nothing
      cases nothing
  | some found =>
      obtain ⟨c, o⟩ := found
      simp only [best] at spec
      obtain ⟨s, closest, rfl, rfl⟩ := spec.closest
      exact .inr ⟨s, closest, rfl⟩

theorem reused?_eq_some_iff {id : Text} :
    reused? threshold (existing.map ofSnippet) ids = some id ↔
      ∃ s, Closest (keySet ids) existing s ∧ s.id = id ∧ threshold ≤ s.score (keySet ids) := by
  rcases reused?_cases threshold ids existing with ⟨disjoint, taken⟩ | ⟨s, closest, taken⟩
  · rw [taken]
    refine iff_of_false (Option.some_ne_none id).symm ?_
    rintro ⟨s, closest, -⟩
    exact closest.meets (disjoint s closest.mem)
  · rw [taken]
    constructor
    · intro takes
      split at takes
      · rename_i reached
        exact ⟨s, closest, Option.some.inj takes, reached⟩
      · cases takes
    · rintro ⟨t, closest', rfl, reached⟩
      obtain rfl := closest.unique closest'
      exact if_pos reached

theorem reused?_eq_none_iff :
    reused? threshold (existing.map ofSnippet) ids = none ↔
      (∀ s ∈ existing, keySet ids ∩ s.keys = ∅) ∨
        ∃ s ∈ existing, keySet ids ∩ s.keys ≠ ∅ ∧
          (∀ t ∈ existing, t.share (keySet ids) ≤ s.share (keySet ids)) ∧
          ¬ threshold ≤ s.score (keySet ids) := by
  rcases reused?_cases threshold ids existing with ⟨disjoint, taken⟩ | ⟨s, closest, taken⟩
  · exact iff_of_true taken (.inl disjoint)
  · rw [taken]
    constructor
    · intro nothing
      refine .inr ⟨s, closest.mem, closest.meets, fun t => closest.le, fun reached => ?_⟩
      rw [if_pos reached] at nothing
      cases nothing
    · rintro (disjoint | ⟨t, member, meets, most, below⟩)
      · exact absurd (disjoint s closest.mem) closest.meets
      · -- Also if it is not the first, its share is that of the closest, and so is its number.
        have same := le_antisymm (most s closest.mem) (closest.le member)
        have scores := Overlap.score_between_eq closest.meets meets same
        rw [Snippet.score, ← scores] at below
        exact if_neg below

/-- Only the identifiers and the keys of the earlier snippets count, and the keys of the new one. -/
theorem reused?_congr {ids' : List Text} {existing' : List (Snippet Text)}
    (keys : keySet ids' = keySet ids)
    (same : existing'.map (fun s => (s.id, s.keys)) = existing.map fun s => (s.id, s.keys)) :
    reused? threshold (existing'.map ofSnippet) ids' =
      reused? threshold (existing.map ofSnippet) ids := by
  refine Option.ext fun id => ?_
  rw [reused?_eq_some_iff, reused?_eq_some_iff, keys]
  constructor
  · rintro ⟨s, closest, rfl, reached⟩
    obtain ⟨t, closest', id, sameKeys⟩ := closest.exists_of_same same.symm
    rw [Snippet.score, ← sameKeys] at reached
    exact ⟨t, closest', id, reached⟩
  · rintro ⟨s, closest, rfl, reached⟩
    obtain ⟨t, closest', id, sameKeys⟩ := closest.exists_of_same same
    rw [Snippet.score, ← sameKeys] at reached
    exact ⟨t, closest', id, reached⟩

/-- **A snippet takes over the identifier of the closest earlier one**, if that is close enough. -/
theorem reused?_closest (threshold : Float) (ids : List Text) (existing : List (Snippet Text)) :
    -- What is taken over, and when nothing is.
    (∀ id, reused? threshold (existing.map ofSnippet) ids = some id ↔
      ∃ s, Closest (keySet ids) existing s ∧ s.id = id ∧ threshold ≤ s.score (keySet ids)) ∧
    (reused? threshold (existing.map ofSnippet) ids = none ↔
      (∀ s ∈ existing, keySet ids ∩ s.keys = ∅) ∨
        ∃ s ∈ existing, keySet ids ∩ s.keys ≠ ∅ ∧
          (∀ t ∈ existing, t.share (keySet ids) ≤ s.share (keySet ids)) ∧
          ¬ threshold ≤ s.score (keySet ids)) ∧
    -- Shares are those of the sets of keys; they are symmetric, above zero, and one at most.
    (∀ new old, Overlap.of? (comparable new) (comparable old) =
        if keySet new ∩ keySet old = ∅ then none
        else some (Overlap.between (keySet new) (keySet old))) ∧
    (∀ new old o, Overlap.of? (comparable new) (comparable old) = some o →
      Overlap.of? (comparable old) (comparable new) = some o ∧ 0 < o.share ∧ o.share ≤ 1 ∧
        (o.share = 1 ↔ keySet new = keySet old)) ∧
    -- The order of the identifiers, repetitions, letter case and empty ones do not count.
    (∀ ids key, key ∈ keySet ids ↔ ∃ id ∈ ids, id ≠ [] ∧ Text.lowerCase id = key) ∧
    (∀ (ids' : List Text) (existing' : List (Snippet Text)), keySet ids' = keySet ids →
      existing'.map (fun s => (s.id, s.keys)) = existing.map (fun s => (s.id, s.keys)) →
        reused? threshold (existing'.map ofSnippet) ids' =
          reused? threshold (existing.map ofSnippet) ids) ∧
    -- Of small sets the binary64 numbers are in the order of the shares.
    ∀ s t : Snippet Text, keySet ids ∩ s.keys ≠ ∅ → keySet ids ∩ t.keys ≠ ∅ →
      (keySet ids).card < 2 ^ 26 → s.keys.card < 2 ^ 26 → t.keys.card < 2 ^ 26 →
        (s.score (keySet ids) < t.score (keySet ids) ↔
          s.share (keySet ids) < t.share (keySet ids)) ∧
        (threshold.isNaN = false →
          (¬ threshold ≤ s.score (keySet ids) ↔ s.score (keySet ids) < threshold)) := by
  refine ⟨fun id => reused?_eq_some_iff, reused?_eq_none_iff, Overlap.of?_comparable, ?_,
    fun ids key => mem_keySet, fun ids' existing' => reused?_congr, ?_⟩
  · intro new old o overlap
    refine ⟨(Overlap.of?_comm _ _).trans overlap, ?_⟩
    obtain ⟨meet, rfl⟩ := Overlap.of?_eq_some overlap
    exact ⟨Overlap.share_between_pos meet, Overlap.share_between_le_one _ _,
      Overlap.share_between_eq_one meet⟩
  · intro s t meetS meetT small smallS smallT
    refine ⟨Overlap.score_between_lt_iff meetS (by omega) meetT (by omega), fun number => ?_⟩
    exact Share.not_le_iff number (Overlap.isNaN_score_between meetS (by omega))

/-- Two earlier snippets share one half of the keys, and the first of them is taken just if the
threshold is not above that. -/
theorem reused?_closest_of_halves :
    let ids := ["a", "B", "", "b", "c"].map String.toList
    let existing := (forestOf [("NONE", ["z", ""]), ("LESS", ["a", "x"]),
      ("FIRST", ["A", "b", "d"]), ("NEXT", ["C", "B", "c", "e"])]).flatMap (·.snippets)
    (∃ s, Closest (keySet ids) existing s ∧ s.id = "FIRST".toList ∧ 0.5 ≤ s.score (keySet ids)) ∧
      ∃ s ∈ existing, keySet ids ∩ s.keys ≠ ∅ ∧
        (∀ t ∈ existing, t.share (keySet ids) ≤ s.share (keySet ids)) ∧
        ¬ 0.51 ≤ s.score (keySet ids) := by
  intro ids existing
  refine ⟨((reused?_closest 0.5 ids existing).1 _).mp (by decide +kernel), ?_⟩
  have nothing := (reused?_closest 0.51 ids existing).2.1.mp (by decide +kernel)
  exact nothing.resolve_left (by decide +kernel)

end Candidate

end Beatsheet

/-
# Beatsheet.Proofs.Continuity.Overlap — overlaps of sets

The lists that overlaps are taken of stand for sets, and an overlap for a fraction. `of?_eq` says
what the overlap of two lists is in terms of their sets, and `exceeds_iff` what it is for one
overlap to exceed another in terms of the fractions. The fraction is one for equal sets only
(`share_between_eq_one`).
-/
import Beatsheet.Continuity.Overlap
import Mathlib.Algebra.Order.Field.Rat
import Mathlib.Data.Finset.Card
import Mathlib.Tactic.FieldSimp
import Mathlib.Tactic.Positivity

set_option autoImplicit false

namespace Beatsheet

theorem nodup_eraseDups {α : Type} [BEq α] [LawfulBEq α] (xs : List α) : xs.eraseDups.Nodup := by
  -- What stands behind an element is what is left of the rest, not the rest itself.
  induction length : xs.length using Nat.strong_induction_on generalizing xs with
  | _ n ih =>
      cases xs with
      | nil => simp
      | cons x xs =>
          have shorter : (xs.filter fun y => !y == x).length < n :=
            length ▸ Nat.lt_succ_of_le (List.length_filter_le _ _)
          rw [List.eraseDups_cons, List.nodup_cons]
          refine ⟨?_, ih _ shorter _ rfl⟩
          simp [List.mem_eraseDups]

namespace Overlap

/-- The overlap of two sets, also if they share nothing. -/
def between (a b : Finset Text) : Overlap :=
  ⟨(a ∩ b).card, (a ∪ b).card⟩

/-- **The overlap of two lists is that of their sets**, if they share something. -/
theorem of?_eq (new old : List Text) :
    of? new old =
      if new.toFinset ∩ old.toFinset = ∅ then none
      else some (between new.toFinset old.toFinset) := by
  have card : ∀ xs : List Text, xs.eraseDups.length = xs.toFinset.card := by
    intro xs
    rw [← List.toFinset_card_of_nodup (nodup_eraseDups xs)]
    congr 1
    ext x
    simp
  have shared : (new.eraseDups.filter old.eraseDups.contains).length =
      (new.toFinset ∩ old.toFinset).card := by
    rw [← List.toFinset_card_of_nodup ((nodup_eraseDups new).filter _)]
    congr 1
    ext x
    simp
  have total := Finset.card_union_add_card_inter new.toFinset old.toFinset
  simp only [of?, card, shared, Finset.card_eq_zero, between]
  split
  · rfl
  · congr 2
    omega

theorem of?_eq_some {new old : List Text} {o : Overlap} (overlap : of? new old = some o) :
    new.toFinset ∩ old.toFinset ≠ ∅ ∧ o = between new.toFinset old.toFinset := by
  rw [of?_eq] at overlap
  split at overlap
  · cases overlap
  · rename_i meet
    exact ⟨meet, (Option.some.inj overlap).symm⟩

/-- The overlap as a fraction. -/
def share (o : Overlap) : ℚ :=
  o.shared / o.total

theorem exceeds_iff {a b : Overlap} (someA : 0 < a.total) (someB : 0 < b.total) :
    a.exceeds b = true ↔ b.share < a.share := by
  have posA : (0 : ℚ) < a.total := by exact_mod_cast someA
  have posB : (0 : ℚ) < b.total := by exact_mod_cast someB
  rw [exceeds, share, share, div_lt_div_iff₀ posB posA, decide_eq_true_iff]
  exact_mod_cast Iff.rfl

variable {a b : Finset Text}

theorem total_between_pos (meet : a ∩ b ≠ ∅) : 0 < (between a b).total := by
  have some_ := Finset.card_pos.mpr (Finset.nonempty_iff_ne_empty.mpr meet)
  exact Nat.lt_of_lt_of_le some_ (Finset.card_le_card Finset.inter_subset_union)

theorem shared_le_total (a b : Finset Text) : (between a b).shared ≤ (between a b).total :=
  Finset.card_le_card Finset.inter_subset_union

theorem share_between_le_one (a b : Finset Text) : (between a b).share ≤ 1 := by
  refine div_le_one_of_le₀ ?_ (Nat.cast_nonneg _)
  exact_mod_cast shared_le_total a b

/-- Only of equal sets all is shared. -/
theorem share_between_eq_one (meet : a ∩ b ≠ ∅) : (between a b).share = 1 ↔ a = b := by
  have pos : ((between a b).total : ℚ) ≠ 0 := by exact_mod_cast (total_between_pos meet).ne'
  rw [share, div_eq_one_iff_eq pos, Nat.cast_inj]
  constructor
  · intro all
    have same := Finset.eq_of_subset_of_card_le Finset.inter_subset_union (Nat.le_of_eq all.symm)
    exact inf_eq_sup.mp same
  · rintro rfl
    simp [between]

end Overlap

end Beatsheet

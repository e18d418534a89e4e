/-
# Beatsheet.Proofs.Identity.Issue — issued names

Names are issued one after another, so what is issued first does not depend on how many names are
issued in all.
-/
import Beatsheet.Identity.Source

set_option autoImplicit false

namespace Beatsheet.IdSource

variable {σ : Type} (source : IdSource σ) (unique : Bool)

theorem length_issue (count : Nat) (issued : List Text) (s : σ) :
    (source.issue unique count issued s).1.length = count := by
  induction count generalizing issued s with
  | zero => rfl
  | succ n ih => simp [issue, ih]

theorem issue_prefix {count more : Nat} (le : count ≤ more) (issued : List Text) (s : σ) :
    (source.issue unique count issued s).1 <+: (source.issue unique more issued s).1 := by
  induction count generalizing more issued s with
  | zero => exact List.nil_prefix
  | succ n ih =>
      cases more with
      | zero => exact absurd le (Nat.not_succ_le_zero n)
      | succ m => exact List.cons_prefix_cons.mpr ⟨rfl, ih (Nat.le_of_succ_le_succ le) _ _⟩

/-- The name of a snippet that was started is settled when it is. -/
theorem getD_issue {count more : Nat} (le : count ≤ more) (issued : List Text) (s : σ) {n : Nat}
    (started : n < count) :
    (source.issue unique more issued s).1.getD n [] =
      (source.issue unique count issued s).1.getD n [] := by
  have within : n < (source.issue unique count issued s).1.length := by
    rwa [length_issue]
  obtain ⟨rest, eq⟩ := source.issue_prefix unique le issued s
  rw [List.getD_eq_getElem?_getD, List.getD_eq_getElem?_getD, ← eq,
    List.getElem?_append_left within]

/-- Names may be issued in several goes, if each go knows what was issued in the ones before. -/
theorem issue_add (count more : Nat) (issued : List Text) (s : σ) :
    source.issue unique (count + more) issued s =
      let first := source.issue unique count issued s
      let second := source.issue unique more (first.1.reverse ++ issued) first.2
      (first.1 ++ second.1, second.2) := by
  induction count generalizing issued s with
  | zero => simp [issue]
  | succ n ih => simp [Nat.succ_add, issue, ih]

end Beatsheet.IdSource

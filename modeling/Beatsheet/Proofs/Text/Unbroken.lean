/-
# Beatsheet.Proofs.Text.Unbroken — texts in one line

A text is unbroken if it holds neither a line feed nor a carriage return (`Unbroken`). Unbroken
texts that are joined by line feeds are the lines of what they make, however lines are told apart
(`lines_join`, `dumpedLines_join`).
-/
import Beatsheet.Forest.Dump
import Beatsheet.Proofs.Source.LineEnd
import Beatsheet.Proofs.Text.Words

set_option autoImplicit false

namespace Beatsheet.Text

theorem isBreak_iff {c : Char} : isBreak c = true ↔ c = '\n' ∨ c = '\r' := by
  rw [isBreak, Bool.or_eq_true, beq_iff_eq, beq_iff_eq]

theorem ascii_of_isBreak {c : Char} (ends : isBreak c = true) : c.toNat < 128 := by
  rcases isBreak_iff.mp ends with rfl | rfl <;> decide

def Unbroken (t : Text) : Prop :=
  ∀ c ∈ t, isBreak c = false

instance (t : Text) : Decidable (Unbroken t) :=
  decidable_of_iff (t.all (!isBreak ·) = true) (by
    simp only [List.all_eq_true, Bool.not_eq_true', Unbroken])

variable {t u : Text} {c : Char}

@[simp] theorem unbroken_nil : Unbroken [] :=
  List.forall_mem_nil _

@[simp] theorem unbroken_cons : Unbroken (c :: t) ↔ isBreak c = false ∧ Unbroken t :=
  List.forall_mem_cons

@[simp] theorem unbroken_append : Unbroken (t ++ u) ↔ Unbroken t ∧ Unbroken u :=
  List.forall_mem_append

theorem unbroken_flatten {ts : List Text} : Unbroken ts.flatten ↔ ∀ t ∈ ts, Unbroken t := by
  induction ts with
  | nil => simp
  | cons t ts ih => rw [List.flatten_cons, unbroken_append, ih, List.forall_mem_cons]

theorem Unbroken.of_subset (unbroken : Unbroken t) (within : u ⊆ t) : Unbroken u :=
  fun c member => unbroken c (within member)

theorem unbroken_of_mem_lines (line : u ∈ lines t) : Unbroken u :=
  fun _ => not_isBreak_of_mem_lines line

theorem unbroken_ofNat (n : Nat) : Unbroken (ofNat n) := by
  intro c member
  have digit : c.isDigit = true := Nat.isDigit_of_mem_toDigits (by decide) (by decide) member
  by_contra broken
  rcases isBreak_iff.mp (eq_true_of_ne_false broken) with rfl | rfl <;> cases digit

/-! ## Lines -/

/-- A line and its end are the first line of a text. -/
theorem lines_append_text (e : LineEnd) (unbroken : Unbroken t)
    (apart : e = .cr → u.head? ≠ some '\n') : lines (t ++ (e.text ++ u)) = t :: lines u := by
  induction t with
  | nil => exact lines_text e apart
  | cons c t ih =>
      obtain ⟨first, others⟩ := unbroken_cons.mp unbroken
      rw [List.cons_append, lines_cons first, ih others]
      rfl

theorem lines_append_feed (unbroken : Unbroken t) (rest : Text) :
    lines (t ++ '\n' :: rest) = t :: lines rest :=
  lines_append_text .lf unbroken nofun

theorem lines_of_unbroken (unbroken : Unbroken t) : lines t = [t] := by
  induction t with
  | nil => rfl
  | cons c t ih =>
      obtain ⟨first, others⟩ := unbroken_cons.mp unbroken
      rw [lines_cons first, ih others]
      rfl

/-- Unbroken texts that are joined by line feeds are the lines. -/
theorem lines_join {ts : List Text} (some_ : ts ≠ []) (unbroken : ∀ t ∈ ts, Unbroken t) :
    lines (join ['\n'] ts) = ts := by
  induction ts with
  | nil => exact absurd rfl some_
  | cons first rest ih =>
      obtain ⟨whole, others⟩ := List.forall_mem_cons.mp unbroken
      cases rest with
      | nil => simpa [join, List.intercalate] using lines_of_unbroken whole
      | cons second rest =>
          rw [join_cons_cons, List.singleton_append, lines_append_feed whole,
            ih (List.cons_ne_nil second rest) others]

theorem dropReturn_of_unbroken (unbroken : Unbroken t) : dropReturn t = t := by
  unfold dropReturn
  split
  · rename_i rest ends
    have return_ : '\r' ∈ t := List.mem_reverse.mp (ends ▸ List.mem_cons_self)
    exact absurd (unbroken _ return_) (by decide)
  · rfl

/-- They are the lines of a dumped part too, if the last one is not empty. -/
theorem dumpedLines_join {ts : List Text} (some_ : ts ≠ [])
    (unbroken : ∀ t ∈ ts, Unbroken t ∧ t ≠ []) : dumpedLines (join ['\n'] ts) = ts := by
  have whole : ∀ t ∈ ts, Unbroken t := fun t member => (unbroken t member).1
  obtain ⟨front, last, rfl⟩ := (List.eq_nil_or_concat ts).resolve_left some_
  have kept : front.map dropReturn = front := by
    refine (List.map_congr_left fun t member => ?_).trans (List.map_id front)
    exact dropReturn_of_unbroken (whole t (by simp [member]))
  obtain ⟨c, rest, rfl⟩ := List.exists_cons_of_ne_nil (unbroken last (by simp)).2
  have apart : ∀ t ∈ front.concat (c :: rest), '\n' ∉ t :=
    fun t member feed => absurd (whole t member _ feed) (by decide)
  rw [dumpedLines, splitWhere_join some_ apart]
  simp [kept]

end Beatsheet.Text

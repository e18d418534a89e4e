/-
# Beatsheet.Proofs.Text.Replace — finding and replacing

A mark first stands in a text behind the shortest beginning that it stands behind (`First`), and
whether a beginning is that one can be told without what comes later (`First.append`,
`First.of_prefix`).

A pattern is replaced in a text from its start on (`Pattern.replace`): at the first place where it
can be matched, what its first way takes off is replaced, and the search goes on behind that. A
place where the pattern has no way leaves its character as it is.
-/
import Beatsheet.Proofs.Text.Pattern

set_option autoImplicit false

namespace Beatsheet

open Text

namespace Text

variable {mark front t u : Text} {c : Char}

/-- The mark stands in the text behind `front`, and not earlier. -/
def First (mark front t : Text) : Prop :=
  front ++ mark <+: t ∧ ∀ other, other ++ mark <+: t → front.length ≤ other.length

theorem first_nil_iff : First mark [] t ↔ mark <+: t :=
  ⟨fun first => first.1, fun start => ⟨start, fun _ _ => Nat.zero_le _⟩⟩

theorem first_cons_iff :
    First mark (c :: front) (c :: t) ↔ ¬ mark <+: c :: t ∧ First mark front t := by
  constructor
  · rintro ⟨stands, least⟩
    refine ⟨fun start => absurd (least [] start) (Nat.not_succ_le_zero _),
      (List.cons_prefix_cons.mp stands).2, fun other earlier => ?_⟩
    exact Nat.le_of_succ_le_succ (least (c :: other) (List.cons_prefix_cons.mpr ⟨rfl, earlier⟩))
  · rintro ⟨later, stands, least⟩
    refine ⟨List.cons_prefix_cons.mpr ⟨rfl, stands⟩, fun other earlier => ?_⟩
    cases other with
    | nil => exact absurd earlier later
    | cons d other => exact Nat.succ_le_succ (least other (List.cons_prefix_cons.mp earlier).2)

/-- A mark that occurs in a text has a first place there. -/
theorem exists_first (occurs : mark <:+: t) : ∃ front, First mark front t := by
  induction t with
  | nil =>
      obtain rfl := List.infix_nil.mp occurs
      exact ⟨[], first_nil_iff.mpr (List.prefix_refl [])⟩
  | cons c rest ih =>
      by_cases start : mark <+: c :: rest
      · exact ⟨[], first_nil_iff.mpr start⟩
      · obtain ⟨front, first⟩ := ih ((List.infix_cons_iff.mp occurs).resolve_left start)
        exact ⟨c :: front, first_cons_iff.mpr ⟨start, first⟩⟩

theorem First.unique {front' : Text} (first : First mark front t) (again : First mark front' t) :
    front = front' := by
  have here := (List.prefix_append front mark).trans first.1
  have there := (List.prefix_append front' mark).trans again.1
  have length := Nat.le_antisymm (first.2 front' again.1) (again.2 front first.1)
  exact (List.prefix_of_prefix_length_le here there length.le).eq_of_length length

theorem First.of_prefix (first : First mark front t) (stands : front ++ mark <+: u)
    (start : u <+: t) : First mark front u :=
  ⟨stands, fun other earlier => first.2 other (earlier.trans start)⟩

theorem First.append (first : First mark front t) (more : Text) : First mark front (t ++ more) := by
  refine ⟨first.1.trans (List.prefix_append t more), fun other earlier => ?_⟩
  by_contra shorter
  have within : (other ++ mark).length ≤ t.length := by
    have length := first.1.length_le
    rw [List.length_append] at length ⊢
    omega
  exact shorter (first.2 other
    (List.prefix_of_prefix_length_le earlier (List.prefix_append t more) within))

end Text

namespace Pattern

variable {κ : Type} {a : Pattern κ} {f : Text → Text}

/-- What the pattern takes off a text by the first way that takes something off, and what that
leaves. -/
def take? (a : Pattern κ) (t : Text) : Option (Text × Text) :=
  ((a.ways t).find? (·.2.length < t.length)).map fun way =>
    (t.take (t.length - way.2.length), way.2)

theorem length_of_take? {t w r : Text} (found : a.take? t = some (w, r)) : r.length < t.length := by
  obtain ⟨way, first, same⟩ := Option.map_eq_some_iff.mp found
  obtain ⟨-, rfl⟩ := Prod.mk.inj same
  simpa using List.find?_some first

/-- The text with what the pattern takes off replaced, wherever it takes something off. -/
def replace (a : Pattern κ) (f : Text → Text) : Text → Text
  | [] => []
  | c :: rest =>
    match _found : a.take? (c :: rest) with
    | some (w, r) => f w ++ a.replace f r
    | none => c :: a.replace f rest
termination_by t => t.length
decreasing_by
  · exact length_of_take? _found
  · exact Nat.lt_succ_self _

/-- The pattern is replaced where it is found. -/
theorem replace_of_head? {w r : Text} {g : List (κ × Text)}
    (found : (a.ways (w ++ r)).head? = some (g, r)) (some_ : w ≠ []) :
    a.replace f (w ++ r) = f w ++ a.replace f r := by
  have shorter : r.length < (w ++ r).length := by
    have length := List.length_pos_iff.mpr some_
    rw [List.length_append]
    omega
  have first : a.take? (w ++ r) = some (w, r) := by
    obtain ⟨others, ways⟩ := List.head?_eq_some_iff.mp found
    rw [take?, ways, List.find?_cons_of_pos (by exact decide_eq_true shorter),
      Option.map_some, List.length_append, Nat.add_sub_cancel, List.take_left]
  obtain ⟨c, rest, rfl⟩ := List.exists_cons_of_ne_nil some_
  rw [List.cons_append] at first ⊢
  rw [replace]
  split <;> simp_all

/-- A character from which the pattern cannot be matched stays. -/
theorem replace_of_nil {c : Char} {rest : Text} (stuck : a.ways (c :: rest) = []) :
    a.replace f (c :: rest) = c :: a.replace f rest := by
  have none_ : a.take? (c :: rest) = none := by
    rw [take?, stuck]
    rfl
  rw [replace]
  split <;> simp_all

end Pattern

end Beatsheet

/-
# Beatsheet.Proofs.Text.Language — the languages of patterns

A pattern that neither names groups nor asks for the end of the text matches the texts of a language
(`Pattern.language`): it has a way to take some beginning off a text just if that beginning is in
the language (`mem_ways_iff`), whatever order the ways are come upon in. So where a text can be cut
in one way only, what a pattern finds is known from the languages of its parts.
-/
import Beatsheet.Proofs.Text.Pattern
import Mathlib.Computability.Language

set_option autoImplicit false

namespace Beatsheet.Pattern

open scoped Computability

variable {κ : Type} {t r : Text} {g : List (κ × Text)}

/-- Whether a pattern neither names a group nor asks for the end of the text. -/
def Plain : Pattern κ → Prop
  | .one _ => True
  | .seq first next => first.Plain ∧ next.Plain
  | .alt first second => first.Plain ∧ second.Plain
  | .opt inside | .many inside | .few inside => inside.Plain
  | .group _ _ | .stop => False

/-- The texts that a pattern takes off. -/
def language : Pattern κ → Language Char
  | .one p => {w | ∃ c, p c = true ∧ w = [c]}
  | .seq first next => first.language * next.language
  | .alt first second => first.language + second.language
  | .opt inside => inside.language + 1
  | .many round | .few round => round.language∗
  | .group _ inside => inside.language
  | .stop => 1

/-! ## Texts of a language -/

section Language

variable {p : Char → Bool} {next : Pattern κ} {w : Text}

theorem mem_language_seq_one :
    w ∈ (seq (one p) next).language ↔
      ∃ c rest, p c = true ∧ rest ∈ next.language ∧ w = c :: rest := by
  constructor
  · intro member
    obtain ⟨_, ⟨c, letter, rfl⟩, rest, behind, rfl⟩ := Language.mem_mul.mp member
    exact ⟨c, rest, letter, behind, rfl⟩
  · rintro ⟨c, rest, letter, behind, rfl⟩
    exact Language.mem_mul.mpr ⟨[c], ⟨c, letter, rfl⟩, rest, behind, rfl⟩

theorem mem_language_many_one :
    w ∈ (many (κ := κ) (one p)).language ↔ ∀ c ∈ w, p c = true := by
  constructor
  · intro member c within
    obtain ⟨parts, rfl, all⟩ := Language.mem_kstar.mp member
    obtain ⟨part, found, inside⟩ := List.mem_flatten.mp within
    obtain ⟨d, letter, rfl⟩ := all part found
    exact List.mem_singleton.mp inside ▸ letter
  · intro letters
    refine Language.mem_kstar.mpr
      ⟨w.map fun c => [c], (List.flatMap_singleton' w).symm, fun part found => ?_⟩
    obtain ⟨c, member, rfl⟩ := List.mem_map.mp found
    exact ⟨c, letters c member, rfl⟩

end Language

/-! ## Steps -/

theorem mem_chain {first next : Text → List (Way κ)} :
    (g, r) ∈ chain first next t ↔
      ∃ front back s, (front, s) ∈ first t ∧ (back, r) ∈ next s ∧ g = front ++ back := by
  simp only [chain, List.mem_flatMap, List.mem_map, Prod.mk.injEq, Prod.exists]
  constructor
  · rintro ⟨front, s, here, back, _, there, rfl, rfl⟩
    exact ⟨front, back, s, here, there, rfl⟩
  · rintro ⟨front, back, s, here, there, rfl⟩
    exact ⟨front, s, here, back, r, there, rfl, rfl⟩

theorem mem_ways_seq {first next : Pattern κ} :
    (g, r) ∈ (seq first next).ways t ↔
      ∃ front back s, (front, s) ∈ first.ways t ∧ (back, r) ∈ next.ways s ∧ g = front ++ back :=
  mem_chain

theorem mem_ways_stop : (g, r) ∈ (stop : Pattern κ).ways t ↔ g = [] ∧ t = [] ∧ r = [] := by
  cases t <;> simp [ways]

/-- What any number of texts of a language make is nothing, or one of them in front of more. -/
theorem mem_kstar_iff {l : Language Char} {w : Text} :
    w ∈ l∗ ↔ w = [] ∨ ∃ first ∈ l, first ≠ [] ∧ ∃ others ∈ l∗, w = first ++ others := by
  constructor
  · intro member
    obtain ⟨parts, rfl, all⟩ := Language.mem_kstar_iff_exists_nonempty.mp member
    cases parts with
    | nil => exact .inl rfl
    | cons first parts =>
        obtain ⟨⟨here, some_⟩, others⟩ := List.forall_mem_cons.mp all
        exact .inr ⟨first, here, some_, parts.flatten,
          Language.join_mem_kstar fun part member => (others part member).1, rfl⟩
  · rintro (rfl | ⟨first, here, -, others, more, rfl⟩)
    · exact Language.nil_mem_kstar l
    · obtain ⟨parts, rfl, all⟩ := Language.mem_kstar.mp more
      exact Language.mem_kstar.mpr ⟨first :: parts, rfl, List.forall_mem_cons.mpr ⟨here, all⟩⟩

/-- Rounds that each take a text of a language off take any number of them off. -/
theorem mem_rounds_iff {round : Text → List (Way κ)} {l : Language Char} {fewer : Bool} {fuel : Nat}
    (once : ∀ t g r, (g, r) ∈ round t ↔ g = [] ∧ ∃ w ∈ l, t = w ++ r) (enough : t.length ≤ fuel) :
    (g, r) ∈ rounds round fewer fuel t ↔ g = [] ∧ ∃ w ∈ l∗, t = w ++ r := by
  induction fuel generalizing t g r with
  | zero =>
      obtain rfl := List.length_eq_zero_iff.mp (Nat.le_zero.mp enough)
      simp only [rounds, List.mem_singleton, Prod.mk.injEq, List.nil_eq_append_iff]
      refine and_congr_right fun _ => ⟨fun last => ⟨[], Language.nil_mem_kstar l, rfl, last⟩, ?_⟩
      rintro ⟨_, -, -, last⟩
      exact last
  | succ fuel ih =>
      have either : (g, r) ∈ rounds round fewer (fuel + 1) t ↔ (g = [] ∧ r = t) ∨
          (g, r) ∈ chain (fun t => (round t).filter (·.2.length < t.length))
            (rounds round fewer fuel) t := by
        cases fewer <;> simp [rounds, or_comm]
      rw [either]
      simp only [mem_chain, List.mem_filter, decide_eq_true_eq]
      constructor
      · rintro (⟨rfl, rfl⟩ | ⟨_, _, s, ⟨here, shorter⟩, there, rfl⟩)
        · exact ⟨rfl, [], Language.nil_mem_kstar l, rfl⟩
        · obtain ⟨rfl, w, member, rfl⟩ := (once _ _ _).mp here
          obtain ⟨rfl, v, others, rfl⟩ := (ih (by omega)).mp there
          refine ⟨rfl, w ++ v, mem_kstar_iff.mpr (.inr ⟨w, member, ?_, v, others, rfl⟩),
            (List.append_assoc _ _ _).symm⟩
          rintro rfl
          exact Nat.lt_irrefl _ shorter
      · rintro ⟨rfl, w, member, rfl⟩
        rcases mem_kstar_iff.mp member with rfl | ⟨first, here, some_, others, more, rfl⟩
        · exact .inl ⟨rfl, rfl⟩
        · rw [List.append_assoc] at enough ⊢
          have shorter : (others ++ r).length < (first ++ (others ++ r)).length := by
            have length := List.length_pos_iff.mpr some_
            simp only [List.length_append]
            omega
          exact .inr ⟨[], [], others ++ r, ⟨(once _ _ _).mpr ⟨rfl, first, here, rfl⟩, shorter⟩,
            (ih (by omega)).mpr ⟨rfl, others, more, rfl⟩, rfl⟩

/-! ## Whole patterns -/

/-- **A plain pattern takes off the texts of its language, and nothing else.** -/
theorem mem_ways_iff {a : Pattern κ} (plain : a.Plain) :
    (g, r) ∈ a.ways t ↔ g = [] ∧ ∃ w ∈ a.language, t = w ++ r := by
  induction a generalizing t g r with
  | one p =>
      constructor
      · intro member
        cases t with
        | nil => cases member
        | cons c rest =>
            rw [ways, List.mem_ite_nil_right, List.mem_singleton, Prod.mk.injEq] at member
            obtain ⟨letter, rfl, rfl⟩ := member
            exact ⟨rfl, [c], ⟨c, letter, rfl⟩, rfl⟩
      · rintro ⟨rfl, _, ⟨c, letter, rfl⟩, rfl⟩
        simp [ways, letter]
  | seq first next ihFirst ihNext =>
      rw [mem_ways_seq]
      constructor
      · rintro ⟨_, _, s, here, there, rfl⟩
        obtain ⟨rfl, w, member, rfl⟩ := (ihFirst plain.1).mp here
        obtain ⟨rfl, v, behind, rfl⟩ := (ihNext plain.2).mp there
        exact ⟨rfl, w ++ v, Language.mem_mul.mpr ⟨w, member, v, behind, rfl⟩,
          (List.append_assoc _ _ _).symm⟩
      · rintro ⟨rfl, _, member, rfl⟩
        obtain ⟨w, here, v, there, rfl⟩ := Language.mem_mul.mp member
        rw [List.append_assoc]
        exact ⟨[], [], v ++ r, (ihFirst plain.1).mpr ⟨rfl, w, here, rfl⟩,
          (ihNext plain.2).mpr ⟨rfl, v, there, rfl⟩, rfl⟩
  | alt first second ihFirst ihSecond =>
      rw [ways, List.mem_append, ihFirst plain.1, ihSecond plain.2, ← and_or_left]
      refine and_congr_right fun _ => ?_
      simp only [language, Language.mem_add, or_and_right, exists_or]
  | opt inside ih =>
      rw [ways, List.mem_append, ih plain, List.mem_singleton, Prod.mk.injEq, ← and_or_left]
      refine and_congr_right fun _ => ?_
      simp only [language, Language.mem_add, Language.mem_one, or_and_right, exists_or,
        exists_eq_left, List.nil_append, @eq_comm _ r]
  | many round ih => exact mem_rounds_iff (fun t g r => ih plain) (Nat.le_refl _)
  | few round ih => exact mem_rounds_iff (fun t g r => ih plain) (Nat.le_refl _)
  | group name inside ih => exact plain.elim
  | stop => exact plain.elim

/-- Where no text of its language stands, a plain pattern cannot be matched. -/
theorem ways_eq_nil {a : Pattern κ} (plain : a.Plain) (other : ∀ w ∈ a.language, ¬ w <+: t) :
    a.ways t = [] := by
  rw [List.eq_nil_iff_forall_not_mem]
  rintro ⟨g, r⟩ member
  obtain ⟨-, w, matched, rfl⟩ := (mem_ways_iff plain).mp member
  exact other w matched (List.prefix_append w r)

/-- A group around a plain pattern is what that takes off. -/
theorem mem_ways_group {a : Pattern κ} (plain : a.Plain) {name : κ} :
    (g, r) ∈ (group name a).ways t ↔ ∃ w ∈ a.language, t = w ++ r ∧ g = [(name, w)] := by
  have taken (w : Text) : (w ++ r).take ((w ++ r).length - r.length) = w := by
    rw [List.length_append, Nat.add_sub_cancel, List.take_left]
  simp only [ways, List.mem_map, Prod.mk.injEq, Prod.exists, mem_ways_iff plain]
  constructor
  · rintro ⟨_, _, ⟨rfl, w, member, rfl⟩, rfl, rfl⟩
    exact ⟨w, member, rfl, by rw [taken, List.nil_append]⟩
  · rintro ⟨w, member, rfl, rfl⟩
    exact ⟨[], r, ⟨rfl, w, member, rfl⟩, by rw [taken, List.nil_append], rfl⟩

end Beatsheet.Pattern

/-
# Beatsheet.Proofs.Json.Scalar — what is printed is scanned back

Strings and whole numbers, each in front of any text that may follow a value. A string ends by
itself (`stringRest_flatMap_escape`), since no escape holds a quotation mark that could end it. A
numeral ends where the digits do, so what follows it must not go on with the number; in a printed
text only a comma or a new line follows (`Follows`).
-/
import Beatsheet.Json.Printer
import Beatsheet.Json.Scanner
import Mathlib.Tactic.SplitIfs

set_option autoImplicit false

namespace Beatsheet.Json

/-! ## Strings -/

theorem hexNumber?_hexDigit :
    ∀ n < 32, hexNumber? '0' '0' (hexDigit (n / 16)) (hexDigit (n % 16)) = some n := by
  decide

/-- An escaped character is read as itself. -/
theorem stringRest_escape (c : Char) (t : Text) :
    stringRest true (escape c ++ t) = withChar c (stringRest true t) := by
  unfold escape
  split_ifs with quote backslash back feed line carriage tab control
  · simp [quote, stringRest, letterEscape?]
  · simp [backslash, stringRest, letterEscape?]
  · simp [back, stringRest, letterEscape?]
  · simp [feed, stringRest, letterEscape?]
  · simp [line, stringRest, letterEscape?]
  · simp [carriage, stringRest, letterEscape?]
  · simp [tab, stringRest, letterEscape?]
  · -- The numbers below 32 are no half of a pair, so the escape is the character at once.
    have notLow : isLow c.toNat = false := by simp [isLow]; omega
    have notHigh : isHigh c.toNat = false := by simp [isHigh]; omega
    simp only [List.cons_append, List.nil_append]
    rw [stringRest]
    simp only [hexNumber?_hexDigit c.toNat control, notLow, notHigh]
    simp
  · rw [List.singleton_append, stringRest]
    · simp [control]
    all_goals simp_all

theorem stringRest_flatMap_escape (t rest : Text) :
    stringRest true (t.flatMap escape ++ '"' :: rest) = .ok (t, rest) := by
  induction t with
  | nil => rfl
  | cons c t ih => rw [List.flatMap_cons, List.append_assoc, stringRest_escape, ih, withChar]

/-! ## What follows a value -/

/-- What may follow a value inside a printed text, or at its end. -/
def Follows (rest : Text) : Prop :=
  ∀ c ∈ rest.head?, c = ',' ∨ c = '\n'

theorem follows_nil : Follows [] := by
  intro c head
  cases head

theorem follows_comma (t : Text) : Follows (',' :: t) := by
  intro c head
  exact .inl (Option.some.inj head).symm

theorem follows_newLine (indent : Nat) (t : Text) : Follows (newLine indent ++ t) := by
  intro c head
  exact .inr (Option.some.inj head).symm

theorem Follows.noDigit {rest : Text} (follows : Follows rest) :
    ∀ c ∈ rest.head?, c.isDigit = false := by
  intro c head
  rcases follows c head with rfl | rfl
  · rfl
  · rfl

/-! ## Numerals -/

theorem isDigit_of_mem_ofNat {n : Nat} {c : Char} (member : c ∈ Text.ofNat n) :
    c.isDigit = true :=
  Nat.isDigit_of_mem_toDigits (by decide) (by decide) member

theorem exists_ofNat_eq_cons (n : Nat) : ∃ c t, Text.ofNat n = c :: t ∧ c.isDigit = true := by
  obtain ⟨c, t, digits⟩ := List.exists_cons_of_ne_nil (Nat.toDigits_ne_nil (n := n) (b := 10))
  refine ⟨c, t, digits, isDigit_of_mem_ofNat (n := n) ?_⟩
  rw [Text.ofNat, digits]
  exact List.mem_cons_self

/-- Only the numeral of zero starts with a zero. -/
theorem head?_ofNat_ne_zero {n : Nat} (pos : 0 < n) : (Text.ofNat n).head? ≠ some '0' := by
  induction n using Nat.strongRecOn with
  | ind n ih =>
      rcases Nat.lt_or_ge n 10 with small | large
      · rw [Text.ofNat, Nat.toDigits_of_lt_base small]
        simp only [List.head?_cons, ne_eq, Option.some.injEq, Nat.digitChar_eq_zero]
        omega
      · have shorter := ih (n / 10) (by omega) (by omega)
        obtain ⟨c, t, digits, -⟩ := exists_ofNat_eq_cons (n / 10)
        rw [digits] at shorter
        rw [Text.ofNat, Nat.toDigits_of_base_le (by decide) large, ← Text.ofNat, digits]
        exact shorter

theorem le_ofDigitChars (digits : Text) (n : Nat) : n ≤ Nat.ofDigitChars 10 digits n := by
  induction digits generalizing n with
  | nil => simp
  | cons c digits ih =>
      rw [Nat.ofDigitChars_cons]
      exact Nat.le_trans (by omega) (ih _)

/-- Digits are gathered up to the last one, as long as their number has 64 bits. -/
theorem gather_append {digits rest : Text} {n : Nat} (all : ∀ c ∈ digits, c.isDigit = true)
    (fits : Nat.ofDigitChars 10 digits n ≤ maxWord) (ends : ∀ c ∈ rest.head?, c.isDigit = false) :
    gather n (digits ++ rest) = (Nat.ofDigitChars 10 digits n, 0, rest) := by
  induction digits generalizing n with
  | nil =>
      cases rest with
      | nil => simp [gather]
      | cons c rest => simp [gather, ends c rfl]
  | cons c digits ih =>
      rw [Nat.ofDigitChars_cons] at fits ⊢
      have next : n * 10 + digitValue c = 10 * n + (c.toNat - '0'.toNat) := by
        rw [digitValue, Nat.mul_comm]
      have small : n * 10 + digitValue c ≤ maxWord :=
        next ▸ Nat.le_trans (le_ofDigitChars digits _) fits
      have digit : c.isDigit = true := all c List.mem_cons_self
      rw [List.cons_append, gather]
      simp only [digit, small, Bool.not_true, Bool.false_eq_true, if_false, if_true]
      rw [next]
      exact ih (fun d member => all d (List.mem_cons_of_mem _ member)) fits

theorem gather_ofNat {n : Nat} (fits : n ≤ maxWord) {rest : Text} (follows : Follows rest) :
    gather 0 (Text.ofNat n ++ rest) = (n, 0, rest) := by
  have number : Nat.ofDigitChars 10 (Text.ofNat n) 0 = n := Nat.ofDigitChars_ten_toDigits
  rw [gather_append (fun c => isDigit_of_mem_ofNat) (by rw [number]; exact fits) follows.noDigit,
    number]

/-- A numeral is read as its number, which the sign makes a value. -/
theorem number_ofNat {n : Nat} (fits : n ≤ maxWord) (negative : Bool) {rest : Text}
    (follows : Follows rest) :
    number true negative (Text.ofNat n ++ rest) = .ok (whole negative n, rest) := by
  have gathered := gather_ofNat fits follows
  obtain ⟨c, next, digits, digit⟩ := exists_ofNat_eq_cons n
  have noZero : (decide (c = '0') && (next ++ rest).head?.any Char.isDigit) = false := by
    by_cases zero : c = '0'
    · -- A numeral that starts with a zero has no second digit.
      subst zero
      have single : next = [] := by
        rcases Nat.eq_zero_or_pos n with rfl | pos
        · exact (List.cons.inj digits).2.symm
        · exact absurd (by rw [digits]; rfl) (head?_ofNat_ne_zero pos)
      subst single
      cases rest with
      | nil => rfl
      | cons d rest => simp [follows.noDigit d rfl]
    · simp [zero]
  rw [digits, List.cons_append] at gathered ⊢
  rw [number]
  simp only [digit, Bool.not_true, Bool.false_eq_true, if_false, noZero, gathered]
  cases rest with
  | nil => rfl
  | cons d rest => rcases follows d rfl with rfl | rfl <;> rfl

end Beatsheet.Json

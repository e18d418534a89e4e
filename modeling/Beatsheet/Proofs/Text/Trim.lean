/-
# Beatsheet.Proofs.Text.Trim — trimming, and what a text does not hold

A mark that a text does not hold is passed over wherever a text is cut at it (`all_ne`,
`before_of_not_mem`). Trimming takes blanks off an end and nothing else (`count_trim`,
`infix_trim`); whichever end is trimmed first, the same is left (`trimStart_trimEnd`).
-/
import Beatsheet.Text.Basic
import Mathlib.Data.List.DropRight

set_option autoImplicit false

namespace Beatsheet.Text

/-! ## Marks -/

theorem all_ne {c : Char} {t : Text} (apart : c ∉ t) : ∀ d ∈ t, (d != c) = true := by
  intro d member
  rw [bne_iff_ne]
  rintro rfl
  exact apart member

theorem before_of_not_mem {c : Char} {t : Text} (absent : c ∉ t) : before c t = t :=
  List.takeWhile_eq_self_iff.mpr (all_ne absent)

theorem before_subset (c : Char) (t : Text) : before c t ⊆ t :=
  (List.takeWhile_prefix (· != c)).subset

theorem not_mem_of_suffix {c : Char} {t u : Text} (absent : c ∉ t) (suffix : u <:+ t) : c ∉ u :=
  fun member => absent (suffix.subset member)

/-- What stands behind some mark stands behind the first one. -/
theorem mem_of_first {head tail front rest : Text} {mark : Char} (first : mark ∉ head)
    (same : head ++ mark :: tail = front ++ mark :: rest) {c : Char} (member : c ∈ rest) :
    c ∈ tail := by
  rcases List.append_eq_append_iff.mp same with ⟨more, -, right⟩ | ⟨more, left, right⟩
  · cases more with
    | nil => exact (List.cons.inj right).2 ▸ member
    | cons d more =>
        rw [(List.cons.inj right).2]
        simp [member]
  · cases more with
    | nil => exact (List.cons.inj right).2 ▸ member
    | cons d more =>
        rw [← (List.cons.inj right).1] at left
        exact absurd (by simp [left]) first

/-- What is left of a text starts where the class of characters ends. -/
theorem not_of_dropWhile {p : Char → Bool} {c : Char} {t rest : Text}
    (start : t.dropWhile p = c :: rest) : p c = false := by
  have head := List.head_dropWhile_not p (l := t) (by simp [start])
  simpa [start] using head

theorem occurs_iff (part t : Text) : occurs part t = true ↔ part <:+: t := by
  induction t with
  | nil => simp [occurs]
  | cons c rest ih =>
      rw [occurs, Bool.or_eq_true, List.isPrefixOf_iff_prefix, ih, List.infix_cons_iff]

theorem not_occurs_of_infix {part t u : Text} (within : t <:+: u) (absent : occurs part u = false) :
    occurs part t = false := by
  rw [Bool.eq_false_iff, ne_eq, occurs_iff] at absent ⊢
  exact fun found => absent (found.trans within)

/-! ## Trimming -/

theorem ne_of_isBlank {c d : Char} (blank : isBlank c = true) (letter : isBlank d = false) :
    (c != d) = true := by
  rw [bne_iff_ne]
  rintro rfl
  rw [blank] at letter
  cases letter

theorem trimStart_eq_nil_iff (t : Text) : trimStart t = [] ↔ ∀ c ∈ t, isBlank c = true :=
  List.dropWhile_eq_nil_iff

theorem trimStart_blanks {blanks : Text} (blank : ∀ c ∈ blanks, isBlank c = true) (t : Text) :
    trimStart (blanks ++ t) = trimStart t :=
  List.dropWhile_append_of_pos blank

theorem exists_blanks (t : Text) :
    ∃ blanks, (∀ c ∈ blanks, isBlank c = true) ∧ t = blanks ++ trimStart t :=
  ⟨t.takeWhile isBlank, fun _ => List.mem_takeWhile_imp, List.takeWhile_append_dropWhile.symm⟩

/-- The first letter of a text is that of the text without blanks around it. -/
theorem trim_eq_cons {t rest : Text} {c : Char} (start : trimStart t = c :: rest)
    (letter : isBlank c = false) : ∃ tail, trim t = c :: tail := by
  rw [trim, start, trimEnd, List.reverse_cons, List.dropWhile_append]
  split
  · exact ⟨[], by simp [List.dropWhile, letter]⟩
  · exact ⟨_, by rw [List.reverse_append]; rfl⟩

theorem trimEnd_cons {c : Char} (letter : isBlank c = false) (t : Text) :
    trimEnd (c :: t) = c :: trimEnd t := by
  rw [trimEnd, List.reverse_cons, List.dropWhile_append]
  split
  · rename_i blank
    rw [List.isEmpty_iff] at blank
    simp [trimEnd, blank, List.dropWhile, letter]
  · simp [trimEnd]

theorem trimStart_ne_nil {t : Text} (letters : trim t ≠ []) : trimStart t ≠ [] := by
  intro none_
  rw [trim, none_] at letters
  exact letters rfl

theorem trimStart_append {t : Text} (letters : trimStart t ≠ []) (rest : Text) :
    trimStart (t ++ rest) = trimStart t ++ rest := by
  rw [trimStart, List.dropWhile_append, if_neg (by simpa [trimStart] using letters), ← trimStart]

theorem trimEnd_append (t rest : Text) :
    trimEnd (t ++ rest) = if trimEnd rest = [] then trimEnd t else t ++ trimEnd rest := by
  rw [trimEnd, List.reverse_append, List.dropWhile_append]
  simp only [List.isEmpty_iff, trimEnd, List.reverse_eq_nil_iff]
  split
  · rfl
  · simp

theorem trimEnd_append_cons {c : Char} (letter : isBlank c = false) (t rest : Text) :
    trimEnd (t ++ c :: rest) = t ++ c :: trimEnd rest := by
  rw [trimEnd_append, trimEnd_cons letter, if_neg (by simp)]

/-- It does not matter which end of a text is trimmed first. -/
theorem trimStart_trimEnd (t : Text) : trimStart (trimEnd t) = trim t := by
  rw [trim]
  induction t with
  | nil => rfl
  | cons c rest ih =>
      cases blank : isBlank c with
      | true =>
          have start : trimStart (c :: rest) = trimStart rest := by simp [trimStart, blank]
          have none_ : trimEnd [c] = [] := by simp [trimEnd, blank]
          rw [start, ← ih, ← List.singleton_append, trimEnd_append, none_]
          split
          · rename_i empty
            rw [empty]
          · simp [trimStart, blank]
      | false =>
          rw [trimEnd_cons blank]
          simp [trimStart, blank, trimEnd_cons blank]

/-- What is left of a text is an end of it, or a beginning. -/
theorem suffix_trimStart (t : Text) : trimStart t <:+ t :=
  List.dropWhile_suffix isBlank

theorem prefix_trimEnd (t : Text) : trimEnd t <+: t :=
  List.rdropWhile_prefix isBlank t

theorem trimEnd_trimEnd (t : Text) : trimEnd (trimEnd t) = trimEnd t :=
  List.rdropWhile_idempotent isBlank t

theorem trim_trimEnd (t : Text) : trim (trimEnd t) = trim t := by
  rw [← trimStart_trimEnd, trimEnd_trimEnd, trimStart_trimEnd]

theorem trim_blank_cons {c : Char} (blank : isBlank c = true) (t : Text) :
    trim (c :: t) = trim t := by
  simp [trim, trimStart, blank]

theorem trim_trimStart_concat {c : Char} (blank : isBlank c = true) {t : Text}
    (letters : trimStart t ≠ []) : trim (trimStart t ++ [c]) = trim t := by
  have twice : trimStart (trimStart t) = trimStart t := List.dropWhile_idempotent isBlank t
  have none_ : trimEnd [c] = [] := by simp [trimEnd, blank]
  rw [trim, trimStart_append (by rwa [twice]), twice, trimEnd_append, none_, if_pos rfl, trim]

theorem trimEnd_blanks {blanks : Text} (blank : ∀ c ∈ blanks, isBlank c = true) (t : Text) :
    trimEnd (t ++ blanks) = trimEnd t := by
  have none_ : trimEnd blanks = [] := by
    rw [trimEnd, List.reverse_eq_nil_iff, List.dropWhile_eq_nil_iff]
    simpa using blank
  rw [trimEnd_append, if_pos none_]

theorem trimEnd_ne_nil {t : Text} (letters : trimStart t ≠ []) : trimEnd t ≠ [] := by
  intro none_
  rw [trimEnd, List.reverse_eq_nil_iff, List.dropWhile_eq_nil_iff] at none_
  exact letters ((trimStart_eq_nil_iff t).mpr (by simpa using none_))

theorem trimEnd_cons_of_letters {t : Text} (letters : trimStart t ≠ []) (c : Char) :
    trimEnd (c :: t) = c :: trimEnd t := by
  have split := trimEnd_append [c] t
  rwa [if_neg (trimEnd_ne_nil letters)] at split

theorem exists_trimEnd (t : Text) :
    ∃ blanks, (∀ c ∈ blanks, isBlank c = true) ∧ t = trimEnd t ++ blanks := by
  refine ⟨t.rtakeWhile isBlank, fun c member => List.mem_rtakeWhile_imp member, ?_⟩
  exact List.rdropWhile_append_rtakeWhile.symm

theorem trim_append_blanks {blanks : Text} (blank : ∀ c ∈ blanks, isBlank c = true) (t : Text) :
    trim (t ++ blanks) = trim t := by
  rw [← trimStart_trimEnd, trimEnd_blanks blank, trimStart_trimEnd]

theorem trim_of_blanks {t : Text} (blank : ∀ c ∈ t, isBlank c = true) : trim t = [] :=
  trim_append_blanks blank []

theorem trimStart_of_trim {t : Text} (trimmed : trim t = t) : trimStart t = t := by
  have ends := (prefix_trimEnd (trimStart t)).length_le
  rw [← trim, trimmed] at ends
  exact (suffix_trimStart t).eq_of_length_le ends

theorem trimEnd_of_trim {t : Text} (trimmed : trim t = t) : trimEnd t = t := by
  rw [trim, trimStart_of_trim trimmed] at trimmed
  exact trimmed

/-! ## What trimming leaves -/

theorem count_trimStart {c : Char} (letter : isBlank c = false) (t : Text) :
    (trimStart t).count c = t.count c := by
  have none_ : (t.takeWhile isBlank).count c = 0 := by
    rw [List.count_eq_zero]
    intro member
    rw [List.mem_takeWhile_imp member] at letter
    cases letter
  have whole := congrArg (List.count c) (List.takeWhile_append_dropWhile (p := isBlank) (l := t))
  rw [List.count_append, none_, Nat.zero_add] at whole
  exact whole

theorem count_trimEnd {c : Char} (letter : isBlank c = false) (t : Text) :
    (trimEnd t).count c = t.count c := by
  have start := count_trimStart letter t.reverse
  rw [trimStart, List.count_reverse] at start
  rw [trimEnd, List.count_reverse, start]

theorem count_trim {c : Char} (letter : isBlank c = false) (t : Text) :
    (trim t).count c = t.count c := by
  rw [trim, count_trimEnd letter, count_trimStart letter]

theorem mem_trim {c : Char} (letter : isBlank c = false) (t : Text) : c ∈ trim t ↔ c ∈ t := by
  rw [← List.count_pos_iff, count_trim letter, List.count_pos_iff]

theorem infix_trim (t : Text) : trim t <:+: t :=
  (prefix_trimEnd (trimStart t)).isInfix.trans (suffix_trimStart t).isInfix

theorem trimStart_subset (t : Text) : trimStart t ⊆ t :=
  (suffix_trimStart t).subset

theorem trim_subset (t : Text) : trim t ⊆ t :=
  (infix_trim t).subset

end Beatsheet.Text

/-
# Beatsheet.Proofs.Source.Numbering — the numbers of lines without comments

Leaving out comments keeps all characters that end lines, but a CR and an LF that stood apart, each
the end of a line of its own, may come together and then end one line between them. So every line
keeps its number just as long as no CR and LF have nothing but left out characters between them
(`numbering_strip`); where they do, all lines behind come one number too early
(`not_always_numbered`).
-/
import Beatsheet.Proofs.Source.BlockComment
import Beatsheet.Source.Line

set_option autoImplicit false

namespace Beatsheet

namespace Text

/-! ## Counting lines -/

/-- The number of the line that a place of a text is on: as many lines as the text has up to it. -/
def lineAt (t : Text) (n : Nat) : Nat :=
  (lines (t.take n)).length

/-- How often a CR has an LF right behind it. -/
def pairs : Text → Nat
  | [] => 0
  | c :: rest => (if c = '\r' ∧ rest.head? = some '\n' then 1 else 0) + pairs rest

theorem pairs_cons_of_ne {c : Char} (other : c ≠ '\r') (t : Text) : pairs (c :: t) = pairs t := by
  simp [pairs, other]

theorem length_consHead (c : Char) {ps : List Text} (nonempty : ps ≠ []) :
    (consHead c ps).length = ps.length := by
  cases ps with
  | nil => exact absurd rfl nonempty
  | cons p rest => rfl

theorem lines_ne_nil (t : Text) : lines t ≠ [] := by
  fun_cases lines t <;> simp [consHead_ne_nil]

/-- Every character that ends a line makes one line more, but a CR and its LF do so together. -/
theorem length_lines (t : Text) : (lines t).length + pairs t = t.countP isBreak + 1 := by
  fun_induction lines t with
  | case1 => rfl
  | case2 rest ih =>
      have feed : pairs ('\n' :: rest) = pairs rest := pairs_cons_of_ne (by decide) rest
      have both : ('\r' :: '\n' :: rest).countP isBreak = rest.countP isBreak + 2 := by
        simp [isBreak]
      rw [both, pairs, feed, List.length_cons, if_pos ⟨rfl, rfl⟩]
      omega
  | case3 c rest apart ends ih =>
      have unpaired : ¬ (c = '\r' ∧ rest.head? = some '\n') := by
        rintro ⟨rfl, head⟩
        obtain ⟨tail, rfl⟩ := List.head?_eq_some_iff.mp head
        exact apart tail rfl rfl
      rw [List.countP_cons_of_pos ends, pairs, if_neg unpaired, List.length_cons]
      omega
  | case4 c rest _ plain ih =>
      have other : c ≠ '\r' := by
        rintro rfl
        exact plain rfl
      rw [List.countP_cons_of_neg plain, pairs_cons_of_ne other,
        length_consHead c (lines_ne_nil rest)]
      exact ih

end Text

namespace BlockComment

open Text

variable {m : Char × Bool} {ms : List (Char × Bool)}

/-! ## Ends of lines that come together -/

/-- An LF is the first of these characters to stay, but it is not the first of them. -/
def Uncovers (ms : List (Char × Bool)) : Prop :=
  ∃ (between back : List (Char × Bool)) (inside : Bool),
    ms = between ++ ('\n', inside) :: back ∧ between ≠ [] ∧ ∀ m ∈ between, stays m = false

/-- Among these characters a CR and an LF have between them only such as are left out, and at least
one. -/
def Joins (ms : List (Char × Bool)) : Prop :=
  ∃ (front : List (Char × Bool)) (inside : Bool) (back : List (Char × Bool)),
    ms = front ++ ('\r', inside) :: back ∧ Uncovers back

theorem joins_cons : Joins (m :: ms) ↔ (m.1 = '\r' ∧ Uncovers ms) ∨ Joins ms := by
  constructor
  · rintro ⟨front, inside, back, parts, uncovers⟩
    cases front with
    | nil =>
        obtain ⟨rfl, rfl⟩ := List.cons.inj parts
        exact .inl ⟨rfl, uncovers⟩
    | cons first front =>
        obtain ⟨rfl, rfl⟩ := List.cons.inj parts
        exact .inr ⟨front, inside, back, rfl, uncovers⟩
  · rintro (⟨isReturn, uncovers⟩ | ⟨front, inside, back, rfl, uncovers⟩)
    · obtain ⟨c, inside⟩ := m
      obtain rfl : c = '\r' := isReturn
      exact ⟨[], inside, ms, rfl, uncovers⟩
    · exact ⟨m :: front, inside, back, rfl, uncovers⟩

/-- What stays begins with an LF if the characters do, or if they uncover one. -/
theorem head?_kept_eq_iff :
    (kept ms).head? = some '\n' ↔ (ms.map (·.1)).head? = some '\n' ∨ Uncovers ms := by
  have first : (kept ms).head? = some '\n' ↔ ∃ between back inside,
      ms = between ++ ('\n', inside) :: back ∧ ∀ m ∈ between, stays m = false := by
    rw [kept, List.head?_map, List.head?_filter, Option.map_eq_some_iff]
    constructor
    · rintro ⟨⟨c, inside⟩, found, rfl⟩
      obtain ⟨-, between, back, parts, dropped⟩ := List.find?_eq_some_iff_append.mp found
      exact ⟨between, back, inside, parts, by simpa using dropped⟩
    · rintro ⟨between, back, inside, parts, dropped⟩
      have dropped : ∀ m ∈ between, (!stays m) = true := by simpa using dropped
      exact ⟨('\n', inside), List.find?_eq_some_iff_append.mpr
        ⟨stays_of_isBreak rfl, between, back, parts, dropped⟩, rfl⟩
  rw [first]
  constructor
  · rintro ⟨between, back, inside, rfl, dropped⟩
    cases between with
    | nil => exact .inl rfl
    | cons m between => exact .inr ⟨m :: between, back, inside, rfl, by simp, dropped⟩
  · rintro (direct | ⟨between, back, inside, rfl, -, dropped⟩)
    · rw [List.head?_map, Option.map_eq_some_iff] at direct
      obtain ⟨⟨c, inside⟩, head, rfl⟩ := direct
      obtain ⟨back, rfl⟩ := List.head?_eq_some_iff.mp head
      exact ⟨[], back, inside, rfl, by simp⟩
    · exact ⟨between, back, inside, rfl, dropped⟩

theorem not_uncovers_of_head? (direct : (ms.map (·.1)).head? = some '\n') : ¬ Uncovers ms := by
  rintro ⟨between, back, inside, rfl, nonempty, dropped⟩
  obtain ⟨first, rest, rfl⟩ := List.exists_cons_of_ne_nil nonempty
  have feed : first.1 = '\n' := Option.some.inj direct
  have stayed : stays first = true := stays_of_isBreak (by rw [feed]; rfl)
  rw [dropped first List.mem_cons_self] at stayed
  cases stayed

/-- No CR loses its LF, and each that is joined to one gains it. -/
theorem pairs_kept (ms : List (Char × Bool)) :
    pairs (ms.map (·.1)) ≤ pairs (kept ms) ∧
      (pairs (kept ms) = pairs (ms.map (·.1)) ↔ ¬ Joins ms) := by
  induction ms with
  | nil => simp [kept, pairs, Joins]
  | cons m ms ih =>
      obtain ⟨le, same⟩ := ih
      rw [joins_cons, not_or, ← same]
      by_cases isReturn : m.1 = '\r'
      · have stayed : kept (m :: ms) = '\r' :: kept ms := by
          rw [kept, List.filter_cons_of_pos (stays_of_isBreak (by rw [isReturn]; rfl)),
            List.map_cons, isReturn, kept]
        have head : (kept ms).head? = some '\n' ↔ (ms.map (·.1)).head? = some '\n' ∨ Uncovers ms :=
          head?_kept_eq_iff
        rw [stayed, List.map_cons, isReturn, pairs, pairs]
        simp only [true_and]
        by_cases direct : (ms.map (·.1)).head? = some '\n'
        · have covered := not_uncovers_of_head? direct
          rw [if_pos direct, if_pos (head.mpr (.inl direct))]
          exact ⟨by omega, by simp only [covered, not_false_eq_true, true_and]; omega⟩
        · by_cases uncovers : Uncovers ms
          · rw [if_neg direct, if_pos (head.mpr (.inr uncovers))]
            refine ⟨by omega, ?_⟩
            simp only [uncovers, not_true_eq_false, false_and, iff_false]
            omega
          · have neither : ¬ (kept ms).head? = some '\n' := by
              rw [head, not_or]
              exact ⟨direct, uncovers⟩
            rw [if_neg direct, if_neg neither]
            exact ⟨by omega, by simp only [uncovers, not_false_eq_true, true_and]; omega⟩
      · have plain : pairs ((m :: ms).map (·.1)) = pairs (ms.map (·.1)) :=
          pairs_cons_of_ne isReturn _
        have stayed : pairs (kept (m :: ms)) = pairs (kept ms) := by
          by_cases stay : stays m = true
          · rw [kept, List.filter_cons_of_pos stay, List.map_cons, pairs_cons_of_ne isReturn, kept]
          · rw [kept, List.filter_cons_of_neg stay, kept]
        rw [plain, stayed]
        simp [isReturn, le]

theorem countP_isBreak_kept (ms : List (Char × Bool)) :
    (kept ms).countP isBreak = (ms.map (·.1)).countP isBreak := by
  have ends : ∀ m : Char × Bool, (isBreak m.1 && stays m) = isBreak m.1 := by
    intro m
    cases h : isBreak m.1 <;> simp [stays, h]
  rw [kept, List.countP_map, List.countP_map, List.countP_filter]
  exact congrArg (List.countP · ms) (funext ends)

/-- What stays has as many lines unless a CR and an LF are joined. -/
theorem length_lines_kept (ms : List (Char × Bool)) :
    (lines (kept ms)).length = (lines (ms.map (·.1))).length ↔ ¬ Joins ms := by
  have before := length_lines (ms.map (·.1))
  have after := length_lines (kept ms)
  rw [countP_isBreak_kept] at after
  rw [← (pairs_kept ms).2]
  omega

/-! ## Numbers -/

/-- Before a place of the text a CR and an LF have only left out characters between them. -/
def JoinsBefore (t : Text) (n : Nat) : Prop :=
  Joins ((marked false t).take n)

/-- **Leaving out comments keeps the numbers of lines just as long as it joins no CR to an LF.** The
number of lines is the same if this happens nowhere, and a character outside comments stays on its
line if it does not happen before. -/
theorem numbering_strip (t : Text) :
    ((lines (strip t)).length = (lines t).length ↔ ¬ JoinsBefore t t.length) ∧
      ∀ (n : Nat) (c : Char), t[n]? = some c → covers t n = false →
        (strip t)[place t n]? = some c ∧
          (lineAt (strip t) (place t n) = lineAt t n ↔ ¬ JoinsBefore t n) := by
  refine ⟨?whole, fun n c there outside => ⟨getElem?_place_strip there outside, ?line⟩⟩
  case whole =>
      have all : (marked false t).take t.length = marked false t := by
        rw [← length_marked, List.take_length]
      have same := length_lines_kept (marked false t)
      rw [JoinsBefore, all, ← same, kept_marked, map_fst_marked, strip]
  case line =>
      rw [lineAt, lineAt, take_place_strip, JoinsBefore, ← length_lines_kept, map_fst_take_marked]

/-- A comment that holds a CR, behind a CR with its LF. -/
theorem numbering_strip_of_apart :
    let t := "a\r\n/* x\ry */b".toList
    t[12]? = some 'b' ∧ covers t 12 = false ∧ (strip t)[place t 12]? = some 'b' ∧
      lineAt (strip t) (place t 12) = 3 ∧ ¬ JoinsBefore t 12 := by
  intro t
  have there : t[12]? = some 'b' := by decide
  have outside : covers t 12 = false := by decide
  obtain ⟨stayed, line⟩ := (numbering_strip t).2 12 'b' there outside
  exact ⟨there, outside, stayed, by decide, line.mp (by decide)⟩

/-- A comment between a CR and an LF: they end one line together once it is left out. -/
theorem not_always_numbered :
    (¬ ∀ t : Text, (lines (strip t)).length = (lines t).length) ∧
      ¬ ∀ (t : Text) (n : Nat) (c : Char), t[n]? = some c → isBreak c = false →
        covers t n = false → lineAt (strip t) (place t n) = lineAt t n := by
  constructor
  · intro always
    have same := always "a\r/* x */\nb".toList
    revert same
    decide
  · intro always
    have same := always "a\r/* x */\nb".toList 10 'b' (by decide) (by decide) (by decide)
    revert same
    decide

end BlockComment

end Beatsheet

/-
# Beatsheet.Proofs.Json.Value — printed values are read back

The text of a value is read as that value (`parse_print`), for all values that a text can hold
exactly: whole numbers need to have 64 bits, floating-point numbers are left out, since the last bit
is not always read back, and arrays and objects may nest to the depth that the reader allows
(`Exact`).

The induction is on the value. It is about reading in front of any text that may follow
(`Reads`), and the fuel is measured by the length of the text, as the reader does.
-/
import Beatsheet.Json.Reader
import Beatsheet.Proofs.Json.Scalar

set_option autoImplicit false

namespace Beatsheet.Json

/-- A value that is read back from its text, and that nests at most `depth` deep. -/
inductive Exact : (depth : Nat) → Json → Prop
  | null (depth : Nat) : Exact depth .null
  | bool (depth : Nat) (b : Bool) : Exact depth (.bool b)
  | nat (depth : Nat) {n : Nat} (fits : n ≤ maxWord) : Exact depth (.int n)
  | negative (depth : Nat) {n : Nat} (fits : n < 0x8000000000000000) :
      Exact depth (.int (.negSucc n))
  | str (depth : Nat) (t : Text) : Exact depth (.str t)
  | arr {depth : Nat} {items : List Json} (each : ∀ j ∈ items, Exact depth j) :
      Exact (depth + 1) (.arr items)
  | obj {depth : Nat} {members : List (Text × Json)} (each : ∀ m ∈ members, Exact depth m.2) :
      Exact (depth + 1) (.obj members)

/-! ## Blanks -/

theorem skipSpace_cons {c : Char} (solid : isSpace c = false) (t : Text) :
    skipSpace (c :: t) = c :: t := by
  simp [skipSpace, solid]

@[simp] theorem skipSpace_newLine (indent : Nat) (t : Text) :
    skipSpace (newLine indent ++ t) = skipSpace t := by
  have blanks : ∀ n, skipSpace (List.replicate n ' ' ++ t) = skipSpace t := by
    intro n
    induction n with
    | zero => rfl
    | succ n ih => exact ih
  exact blanks (2 * indent)

/-- Blanks before a value do not count. -/
theorem value_congr {s t : Text} (same : skipSpace s = skipSpace t) (fuel levels : Nat) :
    value true fuel levels s = value true fuel levels t := by
  cases fuel with
  | zero => simp only [value]
  | succ fuel => simp only [value, same]

theorem isSpace_of_isDigit {c : Char} (digit : c.isDigit = true) : isSpace c = false := by
  cases space : isSpace c with
  | false => rfl
  | true =>
      simp only [isSpace, Bool.or_eq_true, beq_iff_eq] at space
      rcases space with ((rfl | rfl) | rfl) | rfl
      all_goals exact absurd digit (by decide)

theorem ne_of_isDigit {c d : Char} (digit : c.isDigit = true) (noDigit : d.isDigit = false) :
    c ≠ d := by
  rintro rfl
  exact Bool.false_ne_true (noDigit.symm.trans digit)

/-- A value's text starts with neither a blank nor the end of an array. -/
theorem exists_printAt_eq_cons {depth : Nat} {j : Json} (exact_ : Exact depth j) (indent : Nat) :
    ∃ c t, printAt indent j = c :: t ∧ isSpace c = false ∧ c ≠ ']' := by
  cases exact_ with
  | null => exact ⟨'n', _, rfl, rfl, by decide⟩
  | bool depth b =>
      cases b with
      | false => exact ⟨'f', _, rfl, rfl, by decide⟩
      | true => exact ⟨'t', _, rfl, rfl, by decide⟩
  | @nat depth n fits =>
      obtain ⟨c, t, digits, digit⟩ := exists_ofNat_eq_cons n
      exact ⟨c, t, digits, isSpace_of_isDigit digit, ne_of_isDigit digit rfl⟩
  | negative => exact ⟨'-', _, rfl, rfl, by decide⟩
  | str => exact ⟨'"', _, rfl, rfl, by decide⟩
  | @arr depth items =>
      cases items with
      | nil => exact ⟨'[', _, rfl, rfl, by decide⟩
      | cons => exact ⟨'[', _, rfl, rfl, by decide⟩
  | @obj depth members =>
      cases members with
      | nil => exact ⟨'\x7b', _, rfl, rfl, by decide⟩
      | cons => exact ⟨'\x7b', _, rfl, rfl, by decide⟩

/-! ## What the reader does at each character -/

section Steps

variable (fuel levels : Nat) (t rest : Text)

theorem value_scalar {c : Char} (solid : isSpace c = false) (noArray : c ≠ '[')
    (noObject : c ≠ '\x7b') :
    value true (fuel + 1) levels (c :: t) = scalar true (c :: t) := by
  simp only [value, skipSpace_cons solid]
  split <;> simp_all

theorem scalar_digit {c : Char} (digit : c.isDigit = true) :
    scalar true (c :: t) = number true false (c :: t) := by
  unfold scalar
  split
  all_goals simp_all

/-- A sign in front of a number of 63 bits, or of the one next to them. -/
theorem whole_true {n : Nat} (fits : n < 0x8000000000000000) :
    whole true (n + 1) = .int (.negSucc n) := by
  have inRange : n + 1 ≤ 0x8000000000000000 := fits
  simp [whole, inRange, Int.negSucc_eq]

theorem value_array {levels : Nat} (more : 1 < levels) {c : Char} {u : Text}
    (opens : skipSpace t = c :: u) (solid : isSpace c = false) (notEnd : c ≠ ']') :
    value true (fuel + 1) levels ('[' :: t) = do
      let (item, rest) ← value true fuel (levels - 1) t
      let (items, rest) ← moreItems true fuel (levels - 1) rest
      return (.arr (item :: items), rest) := by
  have again : skipSpace (c :: u) = skipSpace t := (skipSpace_cons solid u).trans opens.symm
  rw [← value_congr again]
  simp only [value, skipSpace_cons (c := '[') rfl, opens, if_neg (Nat.not_le.mpr more)]
  split <;> simp_all

theorem value_object {levels : Nat} (more : 1 < levels) {c : Char} {u : Text}
    (opens : skipSpace t = c :: u) (notEnd : c ≠ '\x7d') :
    value true (fuel + 1) levels ('\x7b' :: t) = do
      let (first, rest) ← member true fuel (levels - 1) (skipSpace t)
      let (members, rest) ← moreMembers true fuel (levels - 1) rest
      return (.obj (first :: members), rest) := by
  simp only [value, skipSpace_cons (c := '\x7b') rfl, opens, if_neg (Nat.not_le.mpr more)]
  split <;> simp_all

theorem moreItems_close (indent : Nat) :
    moreItems true (fuel + 1) levels (newLine indent ++ ']' :: rest) = .ok ([], rest) := by
  simp only [moreItems, skipSpace_newLine, skipSpace_cons (c := ']') rfl]

theorem moreItems_comma :
    moreItems true (fuel + 1) levels (',' :: t) = do
      let (item, rest) ← value true fuel levels t
      let (items, rest) ← moreItems true fuel levels rest
      return (item :: items, rest) := by
  simp only [moreItems, skipSpace_cons (c := ',') rfl]

theorem moreMembers_close (indent : Nat) :
    moreMembers true (fuel + 1) levels (newLine indent ++ '\x7d' :: rest) = .ok ([], rest) := by
  simp only [moreMembers, skipSpace_newLine, skipSpace_cons (c := '\x7d') rfl]

theorem moreMembers_comma :
    moreMembers true (fuel + 1) levels (',' :: t) = do
      let (first, rest) ← member true fuel levels (skipSpace t)
      let (members, rest) ← moreMembers true fuel levels rest
      return (first :: members, rest) := by
  simp only [moreMembers, skipSpace_cons (c := ',') rfl]

theorem member_string (name : Text) :
    member true (fuel + 1) levels (string name ++ ':' :: ' ' :: t) = do
      let (found, rest) ← value true fuel levels t
      return ((name, found), rest) := by
  have blank : value true fuel levels (' ' :: t) = value true fuel levels t :=
    value_congr (s := ' ' :: t) (t := t) rfl fuel levels
  simp only [string, List.cons_append, List.append_assoc, List.nil_append, member,
    stringRest_flatMap_escape, bind, Except.bind, skipSpace_cons (c := ':') rfl, blank]

end Steps

/-! ## Values -/

/-- The text of a value is read as that value, with the fuel that its length gives. -/
def Reads (levels indent : Nat) (j : Json) : Prop :=
  ∀ fuel rest, 2 * (printAt indent j).length ≤ fuel → Follows rest →
    value true fuel levels (printAt indent j ++ rest) = .ok (j, rest)

theorem exists_fuel {n fuel : Nat} (enough : n + 1 ≤ fuel) : ∃ less, fuel = less + 1 ∧ n ≤ less :=
  ⟨fuel - 1, by omega, by omega⟩

theorem follows_printItems (indent outer : Nat) (items : List Json) (t : Text) :
    Follows (printItems indent items ++ (newLine outer ++ t)) := by
  cases items with
  | nil => exact follows_newLine outer t
  | cons item rest => exact follows_comma _

theorem moreItems_printItems {levels indent : Nat} (outer : Nat) {items : List Json}
    (each : ∀ j ∈ items, Reads levels indent j) (fuel : Nat)
    (enough : 2 * (printItems indent items).length + 1 ≤ fuel) (rest : Text) :
    moreItems true fuel levels (printItems indent items ++ (newLine outer ++ ']' :: rest)) =
      .ok (items, rest) := by
  induction items generalizing fuel with
  | nil =>
      obtain ⟨fuel, rfl, -⟩ := exists_fuel enough
      exact moreItems_close fuel levels rest outer
  | cons item items ih =>
      obtain ⟨fuel, rfl, enough⟩ := exists_fuel enough
      simp only [printItems, List.length_cons, List.length_append, List.cons_append] at enough
      have first := each item List.mem_cons_self fuel _ (by omega)
        (follows_printItems indent outer items (']' :: rest))
      have more := ih (fun j member => each j (List.mem_cons_of_mem _ member)) fuel (by omega)
      simp only [printItems, List.cons_append, List.append_assoc, moreItems_comma,
        value_congr (skipSpace_newLine indent _), first, bind, Except.bind, more]
      rfl

theorem reads_arr {levels indent : Nat} {items : List Json} (more : 1 < levels)
    (each : ∀ j ∈ items, Reads (levels - 1) (indent + 1) j)
    (starts : ∀ j ∈ items, ∃ c t, printAt (indent + 1) j = c :: t ∧ isSpace c = false ∧ c ≠ ']') :
    Reads levels indent (.arr items) := by
  intro fuel rest enough _
  cases items with
  | nil =>
      obtain ⟨fuel, rfl, -⟩ := exists_fuel (show 3 + 1 ≤ fuel from enough)
      simp [printAt, value, skipSpace, isSpace, Nat.not_le.mpr more]
  | cons item items =>
      obtain ⟨c, t, begins, solid, notEnd⟩ := starts item List.mem_cons_self
      simp only [printAt, List.length_cons, List.length_append, List.cons_append] at enough
      obtain ⟨fuel, rfl, enough⟩ := exists_fuel (show fuel - 1 + 1 ≤ fuel by omega)
      have first := each item List.mem_cons_self fuel _ (by omega)
        (follows_printItems (indent + 1) indent items (']' :: rest))
      have others := moreItems_printItems indent
        (fun j member => each j (List.mem_cons_of_mem _ member)) fuel (by omega) rest
      have opens : skipSpace (newLine (indent + 1) ++ (printAt (indent + 1) item ++
          (printItems (indent + 1) items ++ (newLine indent ++ ']' :: rest)))) =
          c :: (t ++ (printItems (indent + 1) items ++ (newLine indent ++ ']' :: rest))) := by
        rw [skipSpace_newLine, begins, List.cons_append, skipSpace_cons solid]
      simp only [printAt, List.cons_append, List.append_assoc, List.nil_append]
      rw [value_array _ _ more opens solid notEnd]
      simp only [value_congr (skipSpace_newLine (indent + 1) _), first, bind, Except.bind, others]
      rfl

theorem follows_printMembers (indent outer : Nat) (members : List (Text × Json)) (t : Text) :
    Follows (printMembers indent members ++ (newLine outer ++ t)) := by
  cases members with
  | nil => exact follows_newLine outer t
  | cons first rest => exact follows_comma _

/-- A member is read with one more step than its value. -/
theorem member_printAt {levels indent : Nat} {m : Text × Json} (reads : Reads levels indent m.2)
    (fuel : Nat) (enough : 2 * (printAt indent m.2).length + 1 ≤ fuel) {rest : Text}
    (follows : Follows rest) :
    member true fuel levels (string m.1 ++ ':' :: ' ' :: (printAt indent m.2 ++ rest)) =
      .ok (m, rest) := by
  obtain ⟨less, rfl, forValue⟩ := exists_fuel enough
  rw [member_string, reads less rest forValue follows]
  rfl

theorem moreMembers_printMembers {levels indent : Nat} (outer : Nat)
    {members : List (Text × Json)} (each : ∀ m ∈ members, Reads levels indent m.2) (fuel : Nat)
    (enough : 2 * (printMembers indent members).length + 1 ≤ fuel) (rest : Text) :
    moreMembers true fuel levels
        (printMembers indent members ++ (newLine outer ++ '\x7d' :: rest)) =
      .ok (members, rest) := by
  induction members generalizing fuel with
  | nil =>
      obtain ⟨fuel, rfl, -⟩ := exists_fuel enough
      exact moreMembers_close fuel levels rest outer
  | cons m members ih =>
      obtain ⟨fuel, rfl, enough⟩ := exists_fuel enough
      simp only [printMembers, List.length_cons, List.length_append, List.cons_append,
        List.length_nil] at enough
      have first := member_printAt (each m List.mem_cons_self) fuel (by omega)
        (follows_printMembers indent outer members ('\x7d' :: rest))
      have more := ih (fun m member => each m (List.mem_cons_of_mem _ member)) fuel (by omega)
      have opens : ∀ t, skipSpace (string m.1 ++ t) = string m.1 ++ t :=
        fun t => skipSpace_cons rfl _
      simp only [printMembers, List.cons_append, List.append_assoc, List.nil_append,
        moreMembers_comma, skipSpace_newLine, opens, first, bind, Except.bind, more]
      rfl

theorem reads_obj {levels indent : Nat} {members : List (Text × Json)} (more : 1 < levels)
    (each : ∀ m ∈ members, Reads (levels - 1) (indent + 1) m.2) :
    Reads levels indent (.obj members) := by
  intro fuel rest enough _
  cases members with
  | nil =>
      obtain ⟨fuel, rfl, -⟩ := exists_fuel (show 3 + 1 ≤ fuel from enough)
      simp [printAt, value, skipSpace, isSpace, Nat.not_le.mpr more]
  | cons m members =>
      simp only [printAt, List.length_cons, List.length_append, List.cons_append,
        List.length_nil] at enough
      obtain ⟨fuel, rfl, enough⟩ := exists_fuel (show fuel - 1 + 1 ≤ fuel by omega)
      have first := member_printAt (each m List.mem_cons_self) fuel (by omega)
        (follows_printMembers (indent + 1) indent members ('\x7d' :: rest))
      have others := moreMembers_printMembers indent
        (fun m member => each m (List.mem_cons_of_mem _ member)) fuel (by omega) rest
      have opens : ∀ t,
          skipSpace (newLine (indent + 1) ++ (string m.1 ++ t)) = string m.1 ++ t := by
        intro t
        rw [skipSpace_newLine]
        exact skipSpace_cons rfl _
      simp only [printAt, List.cons_append, List.append_assoc, List.nil_append]
      rw [value_object _ _ more (opens _) (by decide)]
      simp only [opens, first, bind, Except.bind, others]
      rfl

/-- Every exact value is read back from its text, wherever that stands. -/
theorem Exact.reads {depth : Nat} {j : Json} (exact_ : Exact depth j) {levels : Nat}
    (deep : depth < levels) (indent : Nat) : Reads levels indent j := by
  induction exact_ generalizing levels indent with
  | null depth =>
      intro fuel rest enough _
      obtain ⟨fuel, rfl, -⟩ := exists_fuel (n := 7) enough
      exact value_scalar fuel levels _ rfl (by decide) (by decide)
  | bool depth b =>
      intro fuel rest enough _
      cases b with
      | false =>
          obtain ⟨fuel, rfl, -⟩ := exists_fuel (n := 9) enough
          exact value_scalar fuel levels _ rfl (by decide) (by decide)
      | true =>
          obtain ⟨fuel, rfl, -⟩ := exists_fuel (n := 7) enough
          exact value_scalar fuel levels _ rfl (by decide) (by decide)
  | @nat depth n fits =>
      intro fuel rest enough follows
      have number := number_ofNat fits false follows
      obtain ⟨c, t, digits, digit⟩ := exists_ofNat_eq_cons n
      simp only [printAt, ofInt, digits, List.cons_append, List.length_cons] at enough number ⊢
      obtain ⟨fuel, rfl, -⟩ := exists_fuel (show fuel - 1 + 1 ≤ fuel by omega)
      rw [value_scalar _ _ _ (isSpace_of_isDigit digit) (ne_of_isDigit digit rfl)
        (ne_of_isDigit digit rfl), scalar_digit _ digit, number]
      rfl
  | @negative depth n fits =>
      intro fuel rest enough follows
      have number := number_ofNat (n := n + 1) (by rw [maxWord]; omega) true follows
      simp only [printAt, ofInt, List.cons_append, List.length_cons] at enough ⊢
      obtain ⟨fuel, rfl, -⟩ := exists_fuel (show fuel - 1 + 1 ≤ fuel by omega)
      rw [value_scalar _ _ _ rfl (by decide) (by decide), scalar, number, whole_true fits]
  | str depth t =>
      intro fuel rest enough _
      simp only [printAt, string, List.cons_append, List.length_cons, List.append_assoc,
        List.nil_append] at enough ⊢
      obtain ⟨fuel, rfl, -⟩ := exists_fuel (show fuel - 1 + 1 ≤ fuel by omega)
      rw [value_scalar _ _ _ rfl (by decide) (by decide), scalar, stringRest_flatMap_escape]
      rfl
  | @arr depth items each ih =>
      refine reads_arr (by omega) (fun j member => ih j member (by omega) _) ?_
      exact fun j member => exists_printAt_eq_cons (each j member) _
  | @obj depth members each ih =>
      exact reads_obj (by omega) fun m member => ih m member (by omega) _

/-- **The text of an exact value is read as that value.** -/
theorem parse_print {depth : Nat} {j : Json} (exact_ : Exact depth j) (deep : depth < depthLimit) :
    parse j.print = .ok j := by
  have reads := exact_.reads deep 0 (fuelFor j.print) [] (Nat.le_add_right _ 2) follows_nil
  rw [List.append_nil] at reads
  simp only [parse, print, bind, Except.bind] at reads ⊢
  rw [reads]
  rfl

end Beatsheet.Json

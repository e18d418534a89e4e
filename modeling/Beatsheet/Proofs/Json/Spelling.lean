/-
# Beatsheet.Proofs.Json.Spelling — how JSON may be spelled

A value can be spelled in many ways: with blanks between its tokens, with escapes for any character
of its strings, and with numbers in any form that reads as the number (`Spells`). The texts that
spell a value are just those that are read as it (`parse_eq_ok_iff`), if the value nests no deeper
than the reader allows.
-/
import Beatsheet.Proofs.Json.Number
import Beatsheet.Proofs.Json.Value

set_option autoImplicit false

namespace Beatsheet.Json

/-! ## Strings -/

/-- A spelling of one character in a string: itself, a letter or a number behind a backslash, or the
numbers of the two halves of a pair. -/
inductive SpellsChar : Text → Char → Prop
  | plain {c : Char} (visible : 32 ≤ c.toNat) (quote : c ≠ '"') (backslash : c ≠ '\\') :
      SpellsChar [c] c
  | letter {e c : Char} (named : letterEscape? e = some c) : SpellsChar ['\\', e] c
  | number {a b c d x : Char} (digits : hexNumber? a b c d = some x.toNat) :
      SpellsChar ['\\', 'u', a, b, c, d] x
  | pair {a b c d e f g h x : Char} {high low : Nat} (first : hexNumber? a b c d = some high)
      (second : hexNumber? e f g h = some low) (isHigh : isHigh high = true)
      (isLow : isLow low = true)
      (halves : x.toNat = (high - 0xD800) * 0x400 + (low - 0xDC00) + 0x10000) :
      SpellsChar ['\\', 'u', a, b, c, d, '\\', 'u', e, f, g, h] x

/-- A spelling of a string, without its quotation marks. -/
inductive SpellsText : Text → Text → Prop
  | nil : SpellsText [] []
  | cons {u us t : Text} {c : Char} (first : SpellsChar u c) (rest : SpellsText us t) :
      SpellsText (u ++ us) (c :: t)

/-- No character is half of a pair. -/
theorem not_half (x : Char) : isHigh x.toNat = false ∧ isLow x.toNat = false := by
  have valid : x.toNat < 0xD800 ∨ 0xDFFF < x.toNat ∧ x.toNat < 0x110000 := x.valid
  simp only [isHigh, isLow, Bool.and_eq_false_iff, decide_eq_false_iff_not]
  omega

theorem stringRest_of_spellsChar {u : Text} {x : Char} (spells : SpellsChar u x) (t : Text) :
    stringRest true (u ++ t) = withChar x (stringRest true t) := by
  cases spells with
  | plain visible quote backslash =>
      rw [List.singleton_append, stringRest]
      · rw [if_neg (by omega)]
      all_goals simp_all
  | @letter e _ named =>
      have other : e ≠ 'u' := by
        rintro rfl
        cases named
      rw [List.cons_append, List.singleton_append, stringRest]
      · rw [named]
      all_goals simp_all
  | number digits =>
      obtain ⟨high, low⟩ := not_half x
      simp only [List.cons_append, List.nil_append]
      rw [stringRest]
      simp [digits, high, low, Char.ofNat_toNat]
  | @pair _ _ _ _ _ _ _ _ _ high low first second isHigh isLow halves =>
      have notLow : Json.isLow high = false := by
        simp only [Json.isHigh, Json.isLow, Bool.and_eq_true, Bool.and_eq_false_iff,
          decide_eq_true_eq, decide_eq_false_iff_not] at isHigh ⊢
        omega
      have whole : pairChar high low = x := by
        rw [pairChar, ← halves, Char.ofNat_toNat]
      simp only [List.cons_append, List.nil_append]
      rw [stringRest]
      simp [first, second, isHigh, isLow, notLow, whole]

theorem stringRest_of_spellsText {u t : Text} (spells : SpellsText u t) (rest : Text) :
    stringRest true (u ++ '"' :: rest) = .ok (t, rest) := by
  induction spells with
  | nil => rfl
  | cons first others ih => rw [List.append_assoc, stringRest_of_spellsChar first, ih, withChar]

theorem exists_of_withChar {x : Char} {found : Except JsonFault (Text × Text)} {t rest : Text}
    (read : withChar x found = .ok (t, rest)) : ∃ t', found = .ok (t', rest) ∧ t = x :: t' := by
  unfold withChar at read
  split at read
  · rename_i t' rest'
    obtain ⟨rfl, rfl⟩ := Prod.mk.inj (Except.ok.inj read)
    exact ⟨t', rfl, rfl⟩
  · cases read

theorem hexValue?_lt {c : Char} {n : Nat} (digit : hexValue? c = some n) : n < 16 := by
  unfold hexValue? at digit
  split_ifs at digit with decimal small capital
  · simp only [Char.isDigit, Bool.and_eq_true, decide_eq_true_eq, UInt32.le_iff_toNat_le] at decimal
    have upper : c.toNat ≤ 57 := decimal.2
    have zero : '0'.toNat = 48 := rfl
    have value := Option.some.inj digit
    omega
  · simp only [Bool.and_eq_true, decide_eq_true_eq, Char.le_def, UInt32.le_iff_toNat_le] at small
    have upper : c.toNat ≤ 102 := small.2
    have first : 'a'.toNat = 97 := rfl
    have value := Option.some.inj digit
    omega
  · simp only [Bool.and_eq_true, decide_eq_true_eq, Char.le_def, UInt32.le_iff_toNat_le] at capital
    have upper : c.toNat ≤ 70 := capital.2
    have first : 'A'.toNat = 65 := rfl
    have value := Option.some.inj digit
    omega

theorem hexNumber?_lt {a b c d : Char} {n : Nat} (digits : hexNumber? a b c d = some n) :
    n < 0x10000 := by
  simp only [hexNumber?, bind, Option.bind_eq_some_iff, Option.some.injEq] at digits
  obtain ⟨i, first, j, second, k, third, l, fourth, rfl⟩ := digits
  have := hexValue?_lt first
  have := hexValue?_lt second
  have := hexValue?_lt third
  have := hexValue?_lt fourth
  omega

theorem toNat_ofNat {n : Nat} (valid : n < 0xD800 ∨ 0xDFFF < n ∧ n < 0x110000) :
    (Char.ofNat n).toNat = n := by
  rw [Char.ofNat, dif_pos valid]
  rfl

/-- A spelling of a character goes on with that of the rest. -/
theorem spellsText_of_withChar {x : Char} {u t s rest : Text} (first : SpellsChar u x)
    (others : ∀ {s : Text}, stringRest true t = .ok (s, rest) →
      ∃ u, t = u ++ '"' :: rest ∧ SpellsText u s)
    (read : withChar x (stringRest true t) = .ok (s, rest)) :
    ∃ v, u ++ t = v ++ '"' :: rest ∧ SpellsText v s := by
  obtain ⟨s', found, rfl⟩ := exists_of_withChar read
  obtain ⟨v, rfl, spells⟩ := others found
  exact ⟨u ++ v, (List.append_assoc _ _ _).symm, .cons first spells⟩

/-- What is read as a string is a spelling of it. -/
theorem spellsText_of_stringRest {t s rest : Text} (read : stringRest true t = .ok (s, rest)) :
    ∃ u, t = u ++ '"' :: rest ∧ SpellsText u s := by
  fun_induction stringRest true t generalizing s with
  | case2 behind =>
      obtain ⟨rfl, rfl⟩ := Prod.mk.inj (Except.ok.inj read)
      exact ⟨[], rfl, .nil⟩
  | case7 a b c d behind n digits _ low high ih =>
      -- The number of a character that is no half of a pair.
      have valid : n < 0xD800 ∨ 0xDFFF < n ∧ n < 0x110000 := by
        have small := hexNumber?_lt digits
        simp only [isLow, isHigh, Bool.not_eq_true', Bool.and_eq_true, Bool.and_eq_false_iff,
          decide_eq_true_eq, decide_eq_false_iff_not] at low high
        omega
      refine spellsText_of_withChar (.number ?_) ih read
      rw [toNat_ofNat valid]
      exact digits
  | case9 a b c d n first _ notLow high e f g h behind m second low ih =>
      have isHigh : isHigh n = true := by simpa using high
      refine spellsText_of_withChar (.pair first second isHigh low ?_) ih read
      simp only [Json.isHigh, isLow, Bool.and_eq_true, decide_eq_true_eq] at isHigh low
      rw [pairChar, toNat_ofNat (by omega)]
  | case15 c behind _ _ x named ih => exact spellsText_of_withChar (.letter named) ih read
  | case18 c behind quote alone _ _ backslash visible ih =>
      refine spellsText_of_withChar (.plain (by omega) quote ?_) ih read
      rintro rfl
      cases behind with
      | nil => exact alone rfl rfl
      | cons d behind => exact backslash d behind rfl rfl
  | case5 _ _ _ _ _ _ _ lax => exact absurd lax (by decide)
  | case1 | case3 | case4 | case6 | case8 | case10 | case11 | case12 | case13 | case14 | case16
  | case17 => cases read

/-! ## Numbers -/

/-- A spelling of a number: the numeral of a whole number that has 64 bits with its sign, or what is
read as a floating-point number. -/
inductive SpellsNumber : Text → Json → Prop
  | nat {n : Nat} (fits : n ≤ maxWord) : SpellsNumber (Text.ofNat n) (.int n)
  | neg {n : Nat} (pos : 0 < n) (fits : n ≤ 0x8000000000000000) :
      SpellsNumber ('-' :: Text.ofNat n) (.int (-n))
  | float {c : Char} {t : Text} {x : Float} (starts : c = '-' ∨ c.isDigit = true)
      (reads : scalar true (c :: t) = .ok (.float x, [])) : SpellsNumber (c :: t) (.float x)

theorem SpellsNumber.scalar {t : Text} {j : Json} (spells : SpellsNumber t j) :
    ∃ c u, t = c :: u ∧ (c = '-' ∨ c.isDigit = true) ∧ Json.scalar true t = .ok (j, []) := by
  cases spells with
  | @nat n fits =>
      have read := number_ofNat fits false follows_nil
      obtain ⟨c, u, digits, digit⟩ := exists_ofNat_eq_cons n
      rw [List.append_nil, digits] at read
      refine ⟨c, u, digits, .inr digit, ?_⟩
      rw [digits, scalar_digit _ digit]
      exact read
  | @neg n pos fits =>
      have read := number_ofNat (Nat.le_trans fits (by decide)) true follows_nil
      rw [List.append_nil] at read
      refine ⟨'-', _, rfl, .inl rfl, read.trans ?_⟩
      simp [whole, pos, fits]
  | float starts reads => exact ⟨_, _, rfl, starts, reads⟩

/-- What is read as a number is a spelling of it. -/
theorem spellsNumber_of_scalar {c : Char} {t : Text} {j : Json}
    (starts : c = '-' ∨ c.isDigit = true) (read : Json.scalar true (c :: t) = .ok (j, [])) :
    SpellsNumber (c :: t) j := by
  have keep := starts
  rcases starts with rfl | digit
  · rcases number_eq_ok read with ⟨x, rfl⟩ | ⟨n, -, rfl, rfl⟩
    · exact .float keep read
    · -- A sign makes a floating-point number of zero, and of what lies below 64 bits.
      unfold whole at read ⊢
      split_ifs at read ⊢ with sign small
      · cases sign
      · simp only [Bool.and_eq_true, decide_eq_true_eq] at small
        exact .neg small.1 small.2
      · exact .float keep read
  · have found := read
    rw [scalar_digit _ digit] at found
    rcases number_eq_ok found with ⟨x, rfl⟩ | ⟨n, fits, digits, rfl⟩
    · exact .float keep read
    · rw [digits]
      exact .nat fits

/-! ## Values -/

/-- A member as it is written: blanks, the spelled name, blanks, and behind the colon the value with
the blanks around it. -/
structure MemberText where
  lead : Text
  key : Text
  gap : Text
  body : Text
  name : Text
  value : Json

namespace MemberText

def text (m : MemberText) : Text :=
  m.lead ++ '"' :: (m.key ++ '"' :: (m.gap ++ ':' :: m.body))

def member (m : MemberText) : Text × Json :=
  (m.name, m.value)

/-- The name is spelled, and the blanks are blank. -/
structure Spelled (m : MemberText) : Prop where
  lead : ∀ c ∈ m.lead, isSpace c = true
  key : SpellsText m.key m.name
  gap : ∀ c ∈ m.gap, isSpace c = true

end MemberText

/-- A spelling of a value that nests at most `depth` deep. -/
inductive Spells : (depth : Nat) → Text → Json → Prop
  | blanks {depth : Nat} {lead t trail : Text} {j : Json} (leads : ∀ c ∈ lead, isSpace c = true)
      (trails : ∀ c ∈ trail, isSpace c = true) (spells : Spells depth t j) :
      Spells depth (lead ++ t ++ trail) j
  | null (depth : Nat) : Spells depth "null".toList .null
  | bool (depth : Nat) (b : Bool) :
      Spells depth (if b then "true".toList else "false".toList) (.bool b)
  | number (depth : Nat) {t : Text} {j : Json} (spells : SpellsNumber t j) : Spells depth t j
  | str (depth : Nat) {u t : Text} (spells : SpellsText u t) :
      Spells depth ('"' :: (u ++ ['"'])) (.str t)
  | emptyArr (depth : Nat) {inside : Text} (blank : ∀ c ∈ inside, isSpace c = true) :
      Spells (depth + 1) ('[' :: (inside ++ [']'])) (.arr [])
  | arr {depth : Nat} {first : Text × Json} {rest : List (Text × Json)}
      (each : ∀ p ∈ first :: rest, Spells depth p.1 p.2) :
      Spells (depth + 1) ('[' :: (first.1 ++ (rest.flatMap (',' :: ·.1) ++ [']'])))
        (.arr ((first :: rest).map Prod.snd))
  | emptyObj (depth : Nat) {inside : Text} (blank : ∀ c ∈ inside, isSpace c = true) :
      Spells (depth + 1) ('\x7b' :: (inside ++ ['\x7d'])) (.obj [])
  | obj {depth : Nat} {first : MemberText} {rest : List MemberText}
      (spelled : ∀ m ∈ first :: rest, m.Spelled)
      (each : ∀ m ∈ first :: rest, Spells depth m.body m.value) :
      Spells (depth + 1) ('\x7b' :: (first.text ++ (rest.flatMap (',' :: ·.text) ++ ['\x7d'])))
        (.obj ((first :: rest).map MemberText.member))

/-! ## Tokens -/

theorem skipSpace_append {blanks : Text} (blank : ∀ c ∈ blanks, isSpace c = true) (t : Text) :
    skipSpace (blanks ++ t) = skipSpace t :=
  List.dropWhile_append_of_pos blank

theorem exists_spaces (t : Text) :
    ∃ blanks, (∀ c ∈ blanks, isSpace c = true) ∧ t = blanks ++ skipSpace t :=
  ⟨t.takeWhile isSpace, fun _ => List.mem_takeWhile_imp, List.takeWhile_append_dropWhile.symm⟩

theorem literal_eq_ok_iff (word t rest : Text) :
    literal word t = .ok rest ↔ t = word ++ rest := by
  induction word generalizing t with
  | nil => simp [literal]
  | cons a word ih =>
      cases t with
      | nil => simp [literal]
      | cons b t =>
          by_cases same : a = b
          · simp [literal, same, ih]
          · simp [literal, same, Ne.symm same]

theorem ends_of_isSpace {c : Char} (space : isSpace c = true) (t : Text) : Ends (c :: t) := by
  simp only [isSpace, Bool.or_eq_true, beq_iff_eq] at space
  rcases space with ((rfl | rfl) | rfl) | rfl
  all_goals exact ends_cons (by decide) (by decide) (by decide) (by decide) t

theorem ends_append {blanks rest : Text} (blank : ∀ c ∈ blanks, isSpace c = true)
    (ends : Ends rest) : Ends (blanks ++ rest) := by
  cases blanks with
  | nil => exact ends
  | cons c blanks => exact ends_of_isSpace (blank c List.mem_cons_self) _

/-- A number that is read by itself is read in front of all that can follow it. -/
theorem scalar_number {c : Char} {t rest : Text} {j : Json} (starts : c = '-' ∨ c.isDigit = true)
    (reads : scalar true (c :: t) = .ok (j, [])) (ends : Ends rest) :
    scalar true (c :: t ++ rest) = .ok (j, rest) := by
  rcases starts with rfl | digit
  · obtain ⟨body, rfl, keeps⟩ := keeps_number true _ _ _ reads
    rw [List.append_nil]
    exact keeps rest ends
  · rw [scalar_digit _ digit] at reads
    obtain ⟨body, whole, keeps⟩ := keeps_number false _ _ _ reads
    rw [List.append_nil] at whole
    rw [List.cons_append, scalar_digit _ digit, ← List.cons_append, whole]
    exact keeps rest ends

end Beatsheet.Json

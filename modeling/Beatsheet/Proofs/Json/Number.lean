/-
# Beatsheet.Proofs.Json.Number — how numbers are read

A number is read from the front of a text and ends by what follows it: neither a digit nor a point
nor the letter of an exponent can follow (`Ends`). What is read of a number depends on nothing
behind it, so a number that is read in one place is read in every other (`Keeps`). The readers of
its parts first split off digits and then look at the rest, hence `Keeps.digits`.

All numbers that are written with a point or an exponent, and those of too many digits, are read as
floating-point numbers (`Floats`). What is read as a whole number is its numeral, since no other
digits have that value (`number_eq_ok`).
-/
import Beatsheet.Proofs.Json.Scalar
import Mathlib.Data.List.TakeWhile

set_option autoImplicit false

namespace Beatsheet.Json

/-- What cannot go on with a number. -/
def Ends (rest : Text) : Prop :=
  ∀ c ∈ rest.head?, c.isDigit = false ∧ c ≠ '.' ∧ c ≠ 'e' ∧ c ≠ 'E'

theorem ends_nil : Ends [] := by
  intro c head
  cases head

theorem ends_cons {c : Char} (digit : c.isDigit = false) (point : c ≠ '.') (small : c ≠ 'e')
    (capital : c ≠ 'E') (t : Text) : Ends (c :: t) := by
  intro d head
  obtain rfl := Option.some.inj head
  exact ⟨digit, point, small, capital⟩

/-- Whatever such a reader returns, it has used up a beginning of its text, and it does the same
with any other text behind that. -/
def Keeps (read : Text → Except JsonFault (Json × Text)) : Prop :=
  ∀ t rest j, read t = .ok (j, rest) → ∃ body, t = body ++ rest ∧
    ∀ rest', Ends rest' → read (body ++ rest') = .ok (j, rest')

/-! ## Digits -/

section Digits

variable {shown tail : Text}

theorem takeWhile_isDigit (all : ∀ c ∈ shown, c.isDigit = true)
    (ends : ∀ c ∈ tail.head?, c.isDigit = false) :
    (shown ++ tail).takeWhile Char.isDigit = shown ∧
      (shown ++ tail).dropWhile Char.isDigit = tail := by
  rw [List.takeWhile_append_of_pos all, List.dropWhile_append_of_pos all]
  cases tail with
  | nil => simp
  | cons c tail => simp [ends c rfl]

theorem exists_digits (t : Text) : ∃ shown tail, t = shown ++ tail ∧
    (∀ c ∈ shown, c.isDigit = true) ∧ ∀ c ∈ tail.head?, c.isDigit = false := by
  refine ⟨t.takeWhile Char.isDigit, t.dropWhile Char.isDigit,
    List.takeWhile_append_dropWhile.symm, fun c => List.mem_takeWhile_imp, fun c head => ?_⟩
  have stops := List.head?_dropWhile_not Char.isDigit t
  rw [Option.mem_def.mp head] at stops
  simpa using stops

/-- A reader that splits off digits keeps what the reader of the rest keeps. -/
theorem Keeps.digits {read : Text → Except JsonFault (Json × Text)}
    {readTail : Text → Text → Except JsonFault (Json × Text)}
    (split : ∀ {shown tail : Text}, (∀ c ∈ shown, c.isDigit = true) →
      (∀ c ∈ tail.head?, c.isDigit = false) → read (shown ++ tail) = readTail shown tail)
    (each : ∀ shown, Keeps (readTail shown)) : Keeps read := by
  intro t rest j found
  obtain ⟨shown, tail, rfl, all, ends⟩ := exists_digits t
  rw [split all ends] at found
  obtain ⟨body, rfl, keeps⟩ := each shown _ _ _ found
  refine ⟨shown ++ body, (List.append_assoc _ _ _).symm, fun rest' follows => ?_⟩
  have ends' : ∀ c ∈ (body ++ rest').head?, c.isDigit = false := by
    cases body with
    | nil => exact fun c head => (follows c head).1
    | cons d body => exact ends
  rw [List.append_assoc, split all ends', keeps rest' follows]

/-- A reader that looks out for characters that go on with a number keeps what it reads behind
these, and what it reads where there are none. -/
theorem Keeps.marked {read readElse : Text → Except JsonFault (Json × Text)} (marks : List Char)
    (known : ∀ c ∈ marks, c = '.' ∨ c = 'e' ∨ c = 'E')
    (each : ∀ c ∈ marks, Keeps fun t => read (c :: t))
    (unmarked : ∀ {t : Text}, (∀ c ∈ t.head?, c ∉ marks) → read t = readElse t)
    (other : Keeps readElse) : Keeps read := by
  intro t rest j found
  by_cases mark : ∃ c ∈ marks, t.head? = some c
  · obtain ⟨c, member, head⟩ := mark
    obtain ⟨t, rfl⟩ := List.head?_eq_some_iff.mp head
    obtain ⟨body, rfl, keeps⟩ := each c member _ _ _ found
    exact ⟨c :: body, rfl, keeps⟩
  · have apart : ∀ c ∈ t.head?, c ∉ marks := fun c head member => mark ⟨c, member, head⟩
    rw [unmarked apart] at found
    obtain ⟨body, rfl, keeps⟩ := other _ _ _ found
    refine ⟨body, rfl, fun rest' follows => ?_⟩
    have apart' : ∀ c ∈ (body ++ rest').head?, c ∉ marks := by
      cases body with
      | nil =>
          intro c head member
          obtain ⟨-, point, small, capital⟩ := follows c head
          rcases known c member with rfl | rfl | rfl <;> contradiction
      | cons d body => exact apart
    rw [unmarked apart', keeps rest' follows]

/-- Gathering uses up all digits, and looks at nothing else. -/
theorem gather_eq (all : ∀ c ∈ shown, c.isDigit = true)
    (ends : ∀ c ∈ tail.head?, c.isDigit = false) (n : Nat) :
    gather n (shown ++ tail) = ((gather n shown).1, (gather n shown).2.1, tail) := by
  induction shown generalizing n with
  | nil =>
      cases tail with
      | nil => rfl
      | cons c tail => simp [gather, ends c rfl]
  | cons c shown ih =>
      have digit : c.isDigit = true := all c List.mem_cons_self
      have split := takeWhile_isDigit all ends
      have alone : (c :: shown).takeWhile Char.isDigit = c :: shown :=
        List.takeWhile_eq_self_iff.mpr all
      rw [List.cons_append] at split ⊢
      rw [gather, gather]
      simp only [digit, Bool.not_true, Bool.false_eq_true, if_false]
      split
      · exact ih (fun d member => all d (List.mem_cons_of_mem c member)) _
      · simp only [split, alone]

end Digits

/-! ## Parts of a number -/

theorem keeps_ok (found : Json) : Keeps fun t => .ok (found, t) := by
  intro t rest j read
  obtain ⟨rfl, rfl⟩ := Prod.mk.inj (Except.ok.inj read)
  exact ⟨[], rfl, fun _ _ => rfl⟩

theorem keeps_error (fault : Text → JsonFault) : Keeps fun t => .error (fault t) := by
  intro t rest j read
  cases read

theorem keeps_finish (negative : Bool) (n : Nat) (exponent : Int) :
    Keeps (finish true negative n exponent) := by
  unfold finish
  cases scaled? negative n exponent with
  | none => exact keeps_error fun _ => .malformed
  | some x => exact keeps_ok (.float x)

/-- An exponent, by its digits and what follows them. -/
def exponentOf (negative : Bool) (n : Nat) (exponent : Int) (down : Bool) (shown rest : Text) :
    Except JsonFault (Json × Text) :=
  if shown.isEmpty then .error (digitMissing true rest)
  else
    let size := shown.foldl (fun total c => total * 10 + digitValue c) 0
    if size < 0x80000000 then
      finish true negative n (if down then exponent - size else exponent + size) rest
    else if n != 0 && !down then .error .malformed
    else .ok (.float (signed negative 0), rest)

section Exponent

variable (negative : Bool) (n : Nat) (exponent : Int)

/-- The same, split off the text behind the sign. -/
def unsignedExponent (down : Bool) (t : Text) : Except JsonFault (Json × Text) :=
  exponentOf negative n exponent down (t.takeWhile Char.isDigit) (t.dropWhile Char.isDigit)

theorem keeps_exponentOf (down : Bool) (shown : Text) :
    Keeps (exponentOf negative n exponent down shown) := by
  unfold exponentOf
  dsimp only
  split
  · exact keeps_error (digitMissing true)
  · split
    · exact keeps_finish negative n _
    · split
      · exact keeps_error fun _ => .malformed
      · exact keeps_ok _

theorem keeps_unsignedExponent (down : Bool) :
    Keeps (unsignedExponent negative n exponent down) := by
  refine Keeps.digits (fun all ends => ?_) (keeps_exponentOf negative n exponent down)
  obtain ⟨shown, rest⟩ := takeWhile_isDigit all ends
  rw [unsignedExponent, shown, rest]

theorem exponentPart_unsigned {t : Text} (plus : t.head? ≠ some '+') (minus : t.head? ≠ some '-') :
    exponentPart true negative n exponent t = unsignedExponent negative n exponent false t := by
  unfold exponentPart
  split
  rename_i down digits sign
  split at sign
  · exact absurd rfl plus
  · exact absurd rfl minus
  · obtain ⟨rfl, rfl⟩ := Prod.mk.inj sign
    rfl

theorem keeps_exponentPart : Keeps (exponentPart true negative n exponent) := by
  intro t rest j read
  by_cases plus : t.head? = some '+'
  · obtain ⟨t, rfl⟩ := List.head?_eq_some_iff.mp plus
    obtain ⟨body, rfl, keeps⟩ := keeps_unsignedExponent negative n exponent false _ _ _ read
    exact ⟨'+' :: body, rfl, keeps⟩
  · by_cases minus : t.head? = some '-'
    · obtain ⟨t, rfl⟩ := List.head?_eq_some_iff.mp minus
      obtain ⟨body, rfl, keeps⟩ := keeps_unsignedExponent negative n exponent true _ _ _ read
      exact ⟨'-' :: body, rfl, keeps⟩
    · rw [exponentPart_unsigned negative n exponent plus minus] at read
      obtain ⟨body, rfl, keeps⟩ := keeps_unsignedExponent negative n exponent false _ _ _ read
      refine ⟨body, rfl, fun rest' follows => ?_⟩
      -- There is a digit, so what follows cannot be taken for a sign.
      cases body with
      | nil => cases keeps [] ends_nil
      | cons c body =>
          have plus' : (c :: body ++ rest').head? ≠ some '+' := plus
          have minus' : (c :: body ++ rest').head? ≠ some '-' := minus
          rw [exponentPart_unsigned negative n exponent plus' minus', keeps rest' follows]

/-- Behind its digits a number may have an exponent. -/
theorem keeps_afterDigits : Keeps (afterDigits true negative n exponent) := by
  refine Keeps.marked ['e', 'E'] (by simp) ?_ (fun apart => ?_) (keeps_finish negative n exponent)
  · simp only [List.forall_mem_cons]
    exact ⟨keeps_exponentPart negative n exponent, keeps_exponentPart negative n exponent, nofun⟩
  · unfold afterDigits
    split
    · exact absurd (apart 'e' rfl) (by decide)
    · exact absurd (apart 'E' rfl) (by decide)
    · rfl

/-- A number with a point, by the digits behind the point and what follows them. -/
def fractionOf (shown rest : Text) : Except JsonFault (Json × Text) :=
  if shown.isEmpty then .error (digitMissing true rest)
  else afterDigits true negative (gather n shown).1
    (exponent - (shown.length - (gather n shown).2.1 : Nat)) rest

theorem keeps_fraction : Keeps (fraction true negative n exponent) := by
  have ofDigits : ∀ shown, Keeps (fractionOf negative n exponent shown) := by
    intro shown
    unfold fractionOf
    split
    · exact keeps_error (digitMissing true)
    · exact keeps_afterDigits negative _ _
  refine Keeps.digits (fun {shown tail} all ends => ?_) ofDigits
  have gathered := gather_eq all ends n
  obtain ⟨taken, -⟩ := takeWhile_isDigit all ends
  simp only [fraction, gathered, taken, fractionOf]
  split
  · rename_i none_
    rw [List.isEmpty_iff.mp none_, List.nil_append]
  · rfl

end Exponent

/-! ## Numbers -/

/-- A number without a point and an exponent. -/
def wholeOr (negative : Bool) (n left : Nat) (rest : Text) : Except JsonFault (Json × Text) :=
  if left = 0 then .ok (whole negative n, rest) else finish true negative n left rest

/-- What may follow the digits of a number before its point. -/
def afterWhole (negative : Bool) (n left : Nat) : Text → Except JsonFault (Json × Text)
  | '.' :: rest => fraction true negative n left rest
  | 'e' :: rest => exponentPart true negative n left rest
  | 'E' :: rest => exponentPart true negative n left rest
  | rest => wholeOr negative n left rest

theorem keeps_afterWhole (negative : Bool) (n left : Nat) : Keeps (afterWhole negative n left) := by
  have other : Keeps (wholeOr negative n left) := by
    unfold wholeOr
    split
    · exact keeps_ok _
    · exact keeps_finish negative n left
  refine Keeps.marked ['.', 'e', 'E'] (by simp) ?_ (fun apart => ?_) other
  · simp only [List.forall_mem_cons]
    exact ⟨keeps_fraction negative n left, keeps_exponentPart negative n left,
      keeps_exponentPart negative n left, nofun⟩
  · unfold afterWhole
    split
    · exact absurd (apart '.' rfl) (by decide)
    · exact absurd (apart 'e' rfl) (by decide)
    · exact absurd (apart 'E' rfl) (by decide)
    · rfl

/-- A number, by its digits before the point and what follows them. -/
def numberOf (negative : Bool) (shown rest : Text) : Except JsonFault (Json × Text) :=
  match shown with
  | [] => .error (if rest.isEmpty then digitMissing true [] else .malformed)
  | c :: more =>
    if c = '0' && !more.isEmpty then .error .malformed
    else afterWhole negative (gather 0 shown).1 (gather 0 shown).2.1 rest

/-- **A number ends by what follows it.** -/
theorem keeps_number (negative : Bool) : Keeps (number true negative) := by
  have ofDigits : ∀ shown, Keeps (numberOf negative shown) := by
    intro shown
    unfold numberOf
    split
    · exact keeps_error fun rest => if rest.isEmpty then digitMissing true [] else .malformed
    · split
      · exact keeps_error fun _ => .malformed
      · exact keeps_afterWhole negative _ _
  refine Keeps.digits (fun {shown tail} all ends => ?_) ofDigits
  have gathered := gather_eq all ends 0
  cases shown with
  | nil =>
      cases tail with
      | nil => rfl
      | cons c tail => simp [number, numberOf, ends c rfl]
  | cons c more =>
      have digit : c.isDigit = true := all c List.mem_cons_self
      have second : ((more ++ tail).head?.any Char.isDigit) = !more.isEmpty := by
        cases more with
        | nil =>
            cases tail with
            | nil => rfl
            | cons d tail => simp [ends d rfl]
        | cons d more => simp [all d (by simp)]
      rw [List.cons_append] at gathered ⊢
      rw [number, numberOf]
      simp only [digit, Bool.not_true, Bool.false_eq_true, if_false, second, gathered]
      split
      · rfl
      · generalize (gather 0 (c :: more)).2.1 = left
        generalize (gather 0 (c :: more)).1 = n
        -- Both sides look at the character behind the digits, and whether digits were left out.
        unfold afterWhole wholeOr afterDigits
        grind

/-! ## Whole numbers -/

/-- Such a reader reads floating-point numbers only. -/
def Floats (read : Text → Except JsonFault (Json × Text)) : Prop :=
  ∀ t rest j, read t = .ok (j, rest) → ∃ x, j = .float x

section Floats

variable (negative : Bool) (n : Nat) (exponent : Int)

theorem floats_finish : Floats (finish true negative n exponent) := by
  intro t rest j read
  unfold finish at read
  split at read
  · rename_i x _
    exact ⟨x, (Prod.mk.inj (Except.ok.inj read)).1.symm⟩
  · cases read

theorem floats_exponentPart : Floats (exponentPart true negative n exponent) := by
  intro t rest j read
  unfold exponentPart at read
  split at read
  dsimp only at read
  split at read
  · cases read
  · split at read
    · exact floats_finish _ _ _ _ _ _ read
    · split at read
      · cases read
      · exact ⟨_, (Prod.mk.inj (Except.ok.inj read)).1.symm⟩

theorem floats_afterDigits : Floats (afterDigits true negative n exponent) := by
  intro t rest j read
  unfold afterDigits at read
  split at read
  · exact floats_exponentPart _ _ _ _ _ _ read
  · exact floats_exponentPart _ _ _ _ _ _ read
  · exact floats_finish _ _ _ _ _ _ read

theorem floats_fraction : Floats (fraction true negative n exponent) := by
  intro t rest j read
  unfold fraction at read
  dsimp only at read
  split at read
  · cases read
  · exact floats_afterDigits _ _ _ _ _ _ read

end Floats

/-- If no digit is left out and none of another kind follows, the whole text is a numeral. -/
theorem gather_eq_all {m n : Nat} {t : Text} (fits : m ≤ maxWord)
    (gathered : gather m t = (n, 0, [])) :
    (∀ c ∈ t, c.isDigit = true) ∧ Nat.ofDigitChars 10 t m = n ∧ n ≤ maxWord := by
  induction t generalizing m with
  | nil =>
      obtain ⟨rfl, -⟩ := Prod.mk.inj gathered
      exact ⟨nofun, rfl, fits⟩
  | cons c t ih =>
      rw [gather] at gathered
      split at gathered
      · cases gathered
      · rename_i digit
        rw [Bool.not_eq_true', Bool.not_eq_false] at digit
        split at gathered
        · rename_i small
          obtain ⟨all, number, word⟩ := ih small gathered
          refine ⟨List.forall_mem_cons.mpr ⟨digit, all⟩, ?_, word⟩
          rw [Nat.ofDigitChars_cons, Nat.mul_comm]
          exact number
        · simp [digit] at gathered

theorem exists_digitChar {c : Char} (digit : c.isDigit = true) :
    ∃ d < 10, c = Nat.digitChar d ∧ c.toNat - '0'.toNat = d := by
  have bounds : 48 ≤ c.toNat ∧ c.toNat ≤ 57 := by
    simpa [Char.isDigit, UInt32.le_iff_toNat_le] using digit
  have small : c.toNat - 48 < 10 := by omega
  refine ⟨c.toNat - 48, small, Char.toNat_inj.mp ?_, rfl⟩
  rw [Nat.toNat_digitChar_of_lt_ten small]
  omega

/-- Digits behind the numeral of a positive number make a longer numeral. -/
theorem ofNat_append {n : Nat} (pos : 0 < n) {digits : Text}
    (all : ∀ c ∈ digits, c.isDigit = true) :
    Text.ofNat n ++ digits = Text.ofNat (Nat.ofDigitChars 10 digits n) := by
  induction digits generalizing n with
  | nil => exact List.append_nil _
  | cons c digits ih =>
      obtain ⟨d, small, rfl, value⟩ := exists_digitChar (all c List.mem_cons_self)
      have longer : Text.ofNat (10 * n + d) = Text.ofNat n ++ [Nat.digitChar d] := by
        rw [Text.ofNat, ← Nat.toDigits_append_toDigits (by decide) pos small,
          Nat.toDigits_of_lt_base small]
        rfl
      rw [Nat.ofDigitChars_cons, value, List.append_cons, ← longer]
      exact ih (by omega) fun c member => all c (List.mem_cons_of_mem _ member)

/-- Digits that do not start with a needless zero are the numeral of their number. -/
theorem ofNat_ofDigitChars {c : Char} {digits : Text} (all : ∀ d ∈ c :: digits, d.isDigit = true)
    (zero : c = '0' → digits = []) :
    Text.ofNat (Nat.ofDigitChars 10 (c :: digits) 0) = c :: digits := by
  obtain ⟨d, small, rfl, value⟩ := exists_digitChar (all c List.mem_cons_self)
  have single : Text.ofNat d = [Nat.digitChar d] := Nat.toDigits_of_lt_base small
  rw [Nat.ofDigitChars_cons, value, Nat.mul_zero, Nat.zero_add]
  rcases Nat.eq_zero_or_pos d with rfl | pos
  · rw [zero rfl]
    exact single
  · rw [← ofNat_append pos fun d member => all d (List.mem_cons_of_mem _ member), single]
    rfl

/-- A number is a floating-point number, or a numeral whose number is whole with its sign. -/
theorem number_eq_ok {negative : Bool} {t : Text} {j : Json}
    (read : number true negative t = .ok (j, [])) :
    (∃ x, j = .float x) ∨ ∃ n ≤ maxWord, t = Text.ofNat n ∧ j = whole negative n := by
  unfold number at read
  split at read
  · cases read
  · rename_i c next
    split at read
    · cases read
    · split at read
      · cases read
      · rename_i digit zero
        split at read
        · exact .inl (floats_fraction _ _ _ _ _ _ read)
        · exact .inl (floats_exponentPart _ _ _ _ _ _ read)
        · exact .inl (floats_exponentPart _ _ _ _ _ _ read)
        · rename_i n rest _ _ _ gathered
          obtain ⟨rfl, rfl⟩ := Prod.mk.inj (Except.ok.inj read)
          obtain ⟨all, number, fits⟩ := gather_eq_all (Nat.zero_le _) gathered
          refine .inr ⟨n, fits, ?_, rfl⟩
          rw [← number, ofNat_ofDigitChars all]
          rintro rfl
          cases next with
          | nil => rfl
          | cons d next => simp [all d (by simp)] at zero
        · exact .inl (floats_afterDigits _ _ _ _ _ _ read)

end Beatsheet.Json

/-
# Beatsheet.Text.Basic — texts

A text is the list of its characters, so that what the library of lists says holds of texts as it
stands. This module has the pieces every recogniser is made of: blanks and trimming, cutting a text
at the characters of a class, and the numerals.

Blanks are the characters with the Unicode property `White_Space`; the characters that end a line
are the two that the splitter of `Source.Line` knows.
-/

set_option autoImplicit false

namespace Beatsheet

/-- A text is the list of its characters. -/
abbrev Text := List Char

namespace Text

/-! ## Character classes -/

/-- Membership in an ascending list of closed ranges; the search ends at the first range that lies
above the number. -/
def inRanges : List (Nat × Nat) → Nat → Bool
  | [], _ => false
  | (low, high) :: rest, n => if n < low then false else n ≤ high || inRanges rest n

/-- The ranges of the Unicode property `White_Space`. -/
def blankRanges : List (Nat × Nat) :=
  [(0x09, 0x0D), (0x20, 0x20), (0x85, 0x85), (0xA0, 0xA0), (0x1680, 0x1680), (0x2000, 0x200A),
    (0x2028, 0x2029), (0x202F, 0x202F), (0x205F, 0x205F), (0x3000, 0x3000)]

def isBlank (c : Char) : Bool :=
  inRanges blankRanges c.toNat

/-- The characters that end a line. -/
def isBreak (c : Char) : Bool :=
  c == '\n' || c == '\r'

/-! ## Trimming -/

def trimStart (t : Text) : Text :=
  t.dropWhile isBlank

def trimEnd (t : Text) : Text :=
  (t.reverse.dropWhile isBlank).reverse

def trim (t : Text) : Text :=
  trimEnd (trimStart t)

/-! ## Cutting -/

/-- Puts a character in front of the first piece. -/
def consHead (c : Char) : List Text → List Text
  | [] => [[c]]
  | piece :: rest => (c :: piece) :: rest

/-- The pieces between the characters of a class: one more than there are such characters. -/
def splitWhere (p : Char → Bool) : Text → List Text
  | [] => [[]]
  | c :: rest => if p c then [] :: splitWhere p rest else consHead c (splitWhere p rest)

/-- The words of a text: its maximal pieces without blanks. -/
def words (t : Text) : List Text :=
  (splitWhere isBlank t).filter (!·.isEmpty)

/-- The part before the first `c`, or all of the text. -/
def before (c : Char) (t : Text) : Text :=
  t.takeWhile (· != c)

/-- What follows the given beginning, if the text begins so. -/
def after? : (start t : Text) → Option Text
  | [], t => some t
  | _ :: _, [] => none
  | a :: start, b :: t => if a = b then after? start t else none

/-- Whether `part` occurs in the text. -/
def occurs (part : Text) : Text → Bool
  | [] => part.isEmpty
  | c :: rest => part.isPrefixOf (c :: rest) || occurs part rest

/-- The texts, with `separator` between each two. -/
def join (separator : Text) (ts : List Text) : Text :=
  separator.intercalate ts

/-- A text that is present only when it is not empty. -/
def nonEmpty? (t : Text) : Option Text :=
  if t.isEmpty then none else some t

/-! ## Numerals -/

/-- The decimal numeral of a number. -/
def ofNat (n : Nat) : Text :=
  Nat.toDigits 10 n

/-! ## Laws of cutting -/

theorem consHead_ne_nil (c : Char) (ps : List Text) : consHead c ps ≠ [] := by
  cases ps <;> simp [consHead]

theorem splitWhere_ne_nil (p : Char → Bool) (t : Text) : splitWhere p t ≠ [] := by
  cases t with
  | nil => simp [splitWhere]
  | cons c rest =>
    by_cases h : p c = true
    · simp [splitWhere, h]
    · simpa [splitWhere, h] using consHead_ne_nil c (splitWhere p rest)

/-- No piece holds a character of the class it was cut at. -/
theorem not_mem_of_mem_splitWhere {p : Char → Bool} {t piece : Text} {c : Char}
    (hp : piece ∈ splitWhere p t) (hc : c ∈ piece) : p c = false := by
  induction t generalizing piece with
  | nil => simp_all [splitWhere]
  | cons d rest ih =>
    by_cases h : p d = true
    · simp only [splitWhere, h, if_true, List.mem_cons] at hp
      rcases hp with rfl | hp
      · simp at hc
      · exact ih hp hc
    · simp only [splitWhere, h] at hp
      cases hs : splitWhere p rest with
      | nil => exact absurd hs (splitWhere_ne_nil p rest)
      | cons first others =>
        simp only [hs, consHead, Bool.false_eq_true, if_false, List.mem_cons] at hp
        rcases hp with rfl | hp
        · rcases List.mem_cons.1 hc with rfl | hc
          · simpa using h
          · exact ih (by simp [hs]) hc
        · exact ih (by simp [hs, hp]) hc

/-- A cut divides the pieces of a text into those before and those behind it. -/
theorem splitWhere_append_cons {p : Char → Bool} {c : Char} (hc : p c = true) (s t : Text) :
    splitWhere p (s ++ c :: t) = splitWhere p s ++ splitWhere p t := by
  induction s with
  | nil => simp [splitWhere, hc]
  | cons d s ih =>
    by_cases hd : p d = true
    · simp [splitWhere, hd, ih]
    · obtain ⟨first, others, hs⟩ := List.exists_cons_of_ne_nil (splitWhere_ne_nil p s)
      simp [splitWhere, hd, ih, hs, consHead]

/-- So does a blank with the words. -/
theorem words_append_blank {c : Char} (hc : isBlank c = true) (s t : Text) :
    words (s ++ c :: t) = words s ++ words t := by
  simp [words, splitWhere_append_cons hc]

theorem after?_append (start t : Text) : after? start (start ++ t) = some t := by
  induction start with
  | nil => simp [after?]
  | cons a start ih => simp [after?, ih]

theorem eq_append_of_after? {start t rest : Text} (h : after? start t = some rest) :
    t = start ++ rest := by
  induction start generalizing t with
  | nil => simpa [after?] using h
  | cons a start ih =>
    cases t with
    | nil => simp [after?] at h
    | cons b t =>
      by_cases hab : a = b
      · simp only [after?, hab, if_true] at h
        simp [hab, ih h]
      · simp [after?, hab] at h

end Text

end Beatsheet

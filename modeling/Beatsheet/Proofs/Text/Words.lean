/-
# Beatsheet.Proofs.Text.Words — words

The words of a text are its longest pieces without blanks (`words`). Blanks around a text leave its
words alone, and a piece without blanks that ends at a blank, or at the end of the text, is a word
of its own (`words_word_append`).
-/
import Beatsheet.Proofs.Text.Trim
import Beatsheet.Text.WordChar

set_option autoImplicit false

namespace Beatsheet.Text

/-- Something without blanks. -/
def IsWord (t : Text) : Prop :=
  t ≠ [] ∧ ∀ c ∈ t, isBlank c = false

/-- Whether a word before this text ends there. -/
def StartsBlank (t : Text) : Prop :=
  ∀ c ∈ t.head?, isBlank c = true

/-! ## Characters -/

theorem exists_of_inRanges {ranges : List (Nat × Nat)} {n : Nat} (found : inRanges ranges n = true) :
    ∃ range ∈ ranges, range.1 ≤ n ∧ n ≤ range.2 := by
  induction ranges with
  | nil => cases found
  | cons range rest ih =>
      rw [inRanges] at found
      split at found
      · cases found
      · rename_i low
        rw [Bool.or_eq_true, decide_eq_true_eq] at found
        rcases found with high | later
        · exact ⟨range, List.mem_cons_self, Nat.le_of_not_lt low, high⟩
        · obtain ⟨other, member, within⟩ := ih later
          exact ⟨other, List.mem_cons_of_mem range member, within⟩

/-- No word character is a blank. -/
theorem isBlank_of_isWordChar {c : Char} (letter : isWordChar c = true) : isBlank c = false := by
  have apart : (blankRanges.flatMap fun range => List.range' range.1 (range.2 + 1 - range.1)).all
      (fun n => !inRanges wordRanges n) = true := by decide +kernel
  by_contra blank
  obtain ⟨range, member, low, high⟩ := exists_of_inRanges (eq_true_of_ne_false blank)
  have none_ := List.all_eq_true.mp apart c.toNat
    (List.mem_flatMap.mpr ⟨range, member, List.mem_range'_1.mpr ⟨low, by omega⟩⟩)
  rw [isWordChar] at letter
  rw [letter] at none_
  cases none_

/-! ## Pieces -/

theorem splitWhere_of_none {p : Char → Bool} {t : Text} (none_ : ∀ c ∈ t, p c = false) :
    splitWhere p t = [t] := by
  induction t with
  | nil => rfl
  | cons c rest ih =>
      have first := none_ c List.mem_cons_self
      have others := ih fun d member => none_ d (List.mem_cons_of_mem c member)
      simp [splitWhere, first, others, consHead]

theorem join_cons_cons (separator first second : Text) (rest : List Text) :
    join separator (first :: second :: rest) =
      first ++ (separator ++ join separator (second :: rest)) := by
  simp [join, List.intercalate]

/-- In a joined text the separator stands before each text but the first. -/
theorem join_cons (c : Char) (first : Text) (rest : List Text) :
    join [c] (first :: rest) = first ++ rest.flatMap (c :: ·) := by
  induction rest generalizing first with
  | nil => simp [join, List.intercalate]
  | cons second rest ih => rw [join_cons_cons, ih, List.flatMap_cons]; rfl

theorem splitWhere_eq_splitOnP (p : Char → Bool) (t : Text) : splitWhere p t = t.splitOnP p := by
  induction t with
  | nil => rfl
  | cons c rest ih =>
      obtain ⟨first, others, pieces⟩ := List.exists_cons_of_ne_nil (splitWhere_ne_nil p rest)
      rw [splitWhere, List.splitOnP_cons_eq_if_modifyHead, ← ih, pieces]
      rfl

/-- Cutting at a character undoes joining with it. -/
theorem splitWhere_join {c : Char} {ts : List Text} (some_ : ts ≠ []) (apart : ∀ t ∈ ts, c ∉ t) :
    splitWhere (· == c) (join [c] ts) = ts := by
  rw [splitWhere_eq_splitOnP]
  exact List.splitOn_intercalate c apart some_

theorem join_splitWhere (c : Char) (t : Text) : join [c] (splitWhere (· == c) t) = t := by
  rw [splitWhere_eq_splitOnP]
  exact List.intercalate_splitOn c

/-- There is one piece more than there are cuts. -/
theorem length_splitWhere (p : Char → Bool) (t : Text) :
    (splitWhere p t).length = t.countP p + 1 := by
  induction t with
  | nil => rfl
  | cons c rest ih =>
      cases cut : p c with
      | true => simp [splitWhere, cut, ih]
      | false =>
          obtain ⟨first, others, pieces⟩ := List.exists_cons_of_ne_nil (splitWhere_ne_nil p rest)
          rw [pieces] at ih
          simpa [splitWhere, cut, pieces, consHead] using ih

/-- The pieces are cut out of the text. -/
theorem mem_of_mem_splitWhere {p : Char → Bool} {t piece : Text} {c : Char}
    (member : piece ∈ splitWhere p t) (within : c ∈ piece) : c ∈ t := by
  induction t generalizing piece with
  | nil =>
      obtain rfl := List.mem_singleton.mp member
      exact within
  | cons d rest ih =>
      cases cut : p d with
      | true =>
          rw [splitWhere, if_pos cut] at member
          rcases List.mem_cons.mp member with rfl | member
          · cases within
          · exact List.mem_cons_of_mem d (ih member within)
      | false =>
          obtain ⟨first, others, pieces⟩ := List.exists_cons_of_ne_nil (splitWhere_ne_nil p rest)
          rw [splitWhere, cut, if_neg Bool.false_ne_true, pieces, consHead] at member
          rw [pieces] at ih
          rcases List.mem_cons.mp member with rfl | member
          · rcases List.mem_cons.mp within with rfl | within
            · exact List.mem_cons_self
            · exact List.mem_cons_of_mem d (ih List.mem_cons_self within)
          · exact List.mem_cons_of_mem d (ih (List.mem_cons_of_mem first member) within)

/-! ## Words -/

variable {t : Text}

theorem isWord_of_mem_words {word : Text} (member : word ∈ words t) : IsWord word := by
  obtain ⟨piece, some_⟩ := List.mem_filter.mp member
  exact ⟨by simpa using some_, fun c => not_mem_of_mem_splitWhere piece⟩

theorem IsWord.words_eq {word : Text} (whole : IsWord word) : words word = [word] := by
  simp [words, splitWhere_of_none whole.2, whole.1]

theorem words_append_startsBlank (starts : StartsBlank t) (front : Text) :
    words (front ++ t) = words front ++ words t := by
  cases t with
  | nil => rw [List.append_nil]; simp [words, splitWhere]
  | cons c rest =>
      have behind : words (c :: rest) = words rest := words_append_blank (starts c rfl) [] rest
      rw [words_append_blank (starts c rfl), behind]

/-- A word ends where a blank follows, or nothing. -/
theorem words_word_append {word : Text} (whole : IsWord word) (ends : StartsBlank t) :
    words (word ++ t) = word :: words t := by
  rw [words_append_startsBlank ends, whole.words_eq, List.singleton_append]

theorem words_blanks_append {blanks : Text} (blank : ∀ c ∈ blanks, isBlank c = true) (t : Text) :
    words (blanks ++ t) = words t := by
  induction blanks with
  | nil => rfl
  | cons c blanks ih =>
      have first := words_append_blank (blank c List.mem_cons_self) [] (blanks ++ t)
      rw [List.cons_append]
      exact first.trans (ih fun d member => blank d (List.mem_cons_of_mem c member))

theorem words_append_blanks {blanks : Text} (blank : ∀ c ∈ blanks, isBlank c = true) (t : Text) :
    words (t ++ blanks) = words t := by
  cases blanks with
  | nil => rw [List.append_nil]
  | cons c blanks =>
      have behind : words blanks = [] := by
        rw [← List.append_nil blanks,
          words_blanks_append fun d member => blank d (List.mem_cons_of_mem c member)]
        rfl
      rw [words_append_blank (blank c List.mem_cons_self), behind, List.append_nil]

/-- A text that does not start with a blank has its first word in front. -/
theorem exists_word {c : Char} (letter : isBlank c = false) (rest : Text) :
    ∃ word behind, IsWord (c :: word) ∧ StartsBlank behind ∧ rest = word ++ behind := by
  refine ⟨rest.takeWhile (!isBlank ·), rest.dropWhile (!isBlank ·), ⟨by simp, ?_⟩, ?_,
    List.takeWhile_append_dropWhile.symm⟩
  · rintro d (_ | ⟨_, member⟩)
    · exact letter
    · simpa using List.mem_takeWhile_imp member
  · intro d head
    cases behind : rest.dropWhile (!isBlank ·) with
    | nil => rw [behind] at head; cases head
    | cons e more =>
        rw [behind] at head
        obtain rfl := Option.some.inj head
        simpa using not_of_dropWhile behind

theorem words_trimEnd (t : Text) : words (trimEnd t) = words t := by
  obtain ⟨blanks, blank, split⟩ := exists_trimEnd t
  have whole := words_append_blanks blank (trimEnd t)
  rwa [← split, eq_comm] at whole

/-- A word at the end of a text is not trimmed. -/
theorem IsWord.trimEnd_append {word : Text} (whole : IsWord word) (t : Text) :
    trimEnd (t ++ word) = t ++ word := by
  obtain ⟨front, last, rfl⟩ := (List.eq_nil_or_concat word).resolve_left whole.1
  have ends := trimEnd_append_cons (whole.2 last (by simp)) (t ++ front) []
  simpa [trimEnd] using ends

/-- Blanks behind a word are trimmed, and nothing else. -/
theorem IsWord.trim_append {word blanks : Text} (whole : IsWord word)
    (blank : ∀ c ∈ blanks, isBlank c = true) : trim (word ++ blanks) = word := by
  obtain ⟨c, rest, rfl⟩ := List.exists_cons_of_ne_nil whole.1
  have letter := whole.2 c List.mem_cons_self
  have start : trimStart (c :: rest ++ blanks) = c :: rest ++ blanks := by
    simp [trimStart, letter]
  rw [trim, start, trimEnd_blanks blank]
  exact whole.trimEnd_append []

end Beatsheet.Text

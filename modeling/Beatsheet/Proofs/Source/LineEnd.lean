/-
# Beatsheet.Proofs.Source.LineEnd — spellings of line ends

The same text can be written with LF, with CR LF or with CR at the ends of its lines (`spelled`).
Comments are found in the same places, as none of their marks ends a line (`scan_spelled`), and the
lines are the same (`lines_spelled`); so any two spellings have the same numbered lines and give
the same extraction (`extract_spelled`). In the text that is spelled LF ends the lines; it has no
CR, which would end one too, or make a CR LF that is not meant.
-/
import Beatsheet.Extract

set_option autoImplicit false

namespace Beatsheet

/-- The ways to end a line. -/
inductive LineEnd where
  | lf
  | crlf
  | cr
  deriving DecidableEq, Repr

def LineEnd.text : LineEnd → Text
  | .lf => ['\n']
  | .crlf => ['\r', '\n']
  | .cr => ['\r']

/-- A text whose lines end with LF, with other line ends. -/
def Text.spelled (e : LineEnd) (t : Text) : Text :=
  t.flatMap fun c => if c = '\n' then e.text else [c]

namespace Text

variable (e : LineEnd)

theorem spelled_lf (t : Text) : spelled .lf t = t := by
  induction t with
  | nil => rfl
  | cons c rest ih =>
      rw [spelled, List.flatMap_cons, ← spelled, ih]
      split
      · rename_i feed
        rw [feed]
        rfl
      · rfl

theorem spelled_feed (t : Text) : spelled e ('\n' :: t) = e.text ++ spelled e t := by
  simp [spelled]

theorem spelled_cons {c : Char} (other : c ≠ '\n') (t : Text) :
    spelled e (c :: t) = c :: spelled e t := by
  simp [spelled, other]

theorem ne_of_not_isBreak {c : Char} (plain : isBreak c = false) : c ≠ '\n' ∧ c ≠ '\r' := by
  simpa [isBreak] using plain

/-- No spelling makes a text begin with a character that ends no line. -/
theorem head?_spelled {c : Char} (plain : isBreak c = false) (t : Text) :
    (spelled e t).head? = some c ↔ t.head? = some c := by
  obtain ⟨feed, ret⟩ := ne_of_not_isBreak plain
  cases t with
  | nil => rfl
  | cons d rest =>
      by_cases ends : d = '\n'
      · subst ends
        rw [spelled_feed]
        cases e <;> simp [LineEnd.text, feed.symm, ret.symm]
      · rw [spelled_cons e ends]
        simp

theorem spelled_eq_nil {t : Text} : spelled e t = [] ↔ t = [] := by
  cases t with
  | nil => simp [spelled]
  | cons c rest =>
      by_cases feed : c = '\n'
      · subst feed
        rw [spelled_feed]
        cases e <;> simp [LineEnd.text]
      · simp [spelled_cons e feed]

end Text

namespace BlockComment

open Text

variable (e : LineEnd)

theorem closes_cons (c : Char) (t : Text) :
    closes (c :: t) = ((c == '*' && t.head? == some '/') || closes t) := by
  by_cases ends : c = '*' ∧ t.head? = some '/'
  · obtain ⟨rfl, head⟩ := ends
    obtain ⟨rest, rfl⟩ := List.head?_eq_some_iff.mp head
    rfl
  · have goesOn : (c == '*' && t.head? == some '/') = false := by
      rw [Bool.eq_false_iff, ne_eq, Bool.and_eq_true, beq_iff_eq, beq_iff_eq]
      exact ends
    rw [goesOn, Bool.false_or, closes]
    rintro rest rfl rfl
    exact ends ⟨rfl, rfl⟩

theorem closes_text (t : Text) : closes (e.text ++ t) = closes t := by
  cases e <;> simp [LineEnd.text, closes]

theorem closes_spelled (t : Text) : closes (spelled e t) = closes t := by
  induction t with
  | nil => rfl
  | cons c rest ih =>
      by_cases feed : c = '\n'
      · subst feed
        rw [spelled_feed, closes_text, ih, closes_cons]
        rfl
      · have head : ((spelled e rest).head? == some '/') = (rest.head? == some '/') := by
          rw [Bool.eq_iff_iff, beq_iff_eq, beq_iff_eq, head?_spelled e rfl]
        rw [spelled_cons e feed, closes_cons, closes_cons, ih, head]

/-- An end of a line is no mark of a comment and stays in one. -/
theorem scan_text (inside : Bool) (t : Text) :
    scan inside (e.text ++ t) = e.text ++ scan inside t := by
  cases e <;> cases inside <;> simp [LineEnd.text, scan, isBreak]

theorem scan_false_cons {c : Char} {t : Text} (plain : c = '/' → t.head? ≠ some '*') :
    scan false (c :: t) = c :: scan false t := by
  rw [scan]
  rintro rest rfl rfl
  exact plain rfl rfl

theorem scan_true_cons {c : Char} {t : Text} (plain : c = '*' → t.head? ≠ some '/') :
    scan true (c :: t) = if isBreak c then c :: scan true t else scan true t := by
  rw [scan]
  rintro rest rfl rfl
  exact plain rfl rfl

/-- **Comments are left out in the same way from all spellings of a text.** -/
theorem scan_spelled (inside : Bool) (t : Text) :
    scan inside (spelled e t) = spelled e (scan inside t) := by
  fun_induction scan inside t with
  | case1 rest closed ih =>
      rw [spelled_cons e (by decide), spelled_cons e (by decide), scan, closes_spelled,
        if_pos closed, ih]
  | case2 rest opened =>
      rw [spelled_cons e (by decide), spelled_cons e (by decide), scan, closes_spelled,
        if_neg opened]
  | case3 rest ih =>
      rw [spelled_cons e (by decide), spelled_cons e (by decide), scan, ih]
  | case4 c rest plain ih =>
      by_cases feed : c = '\n'
      · subst feed
        rw [spelled_feed, scan_text, ih, spelled_feed]
      · rw [spelled_cons e feed, scan_false_cons, ih, spelled_cons e feed]
        rintro rfl head
        rw [head?_spelled e rfl, List.head?_eq_some_iff] at head
        obtain ⟨tail, rfl⟩ := head
        exact plain tail rfl rfl
  | case5 c rest plain ends ih =>
      by_cases feed : c = '\n'
      · subst feed
        rw [spelled_feed, scan_text, ih, spelled_feed]
      · rw [spelled_cons e feed, scan_true_cons, if_pos ends, ih, spelled_cons e feed]
        rintro rfl
        cases ends
  | case6 c rest plain inner ih =>
      have feed : c ≠ '\n' := by
        rintro rfl
        exact inner rfl
      rw [spelled_cons e feed, scan_true_cons, if_neg inner, ih]
      rintro rfl head
      rw [head?_spelled e rfl, List.head?_eq_some_iff] at head
      obtain ⟨tail, rfl⟩ := head
      exact plain tail rfl rfl
  | case7 inside => cases inside <;> rfl

/-- Nothing is added where comments are left out. -/
theorem scan_sublist (inside : Bool) (t : Text) : List.Sublist (scan inside t) t := by
  fun_induction scan inside t with
  | case1 rest closed ih => exact (ih.cons _).cons _
  | case2 rest opened => exact List.Sublist.refl _
  | case3 rest ih => exact (ih.cons _).cons _
  | case4 c rest plain ih => exact ih.cons_cons c
  | case5 c rest plain ends ih => exact ih.cons_cons c
  | case6 c rest plain inner ih => exact ih.cons c
  | case7 inside => exact List.nil_sublist _

end BlockComment

namespace Text

variable (e : LineEnd)

/-- Any of them ends one line, unless it is a CR before an LF. -/
theorem lines_text {t : Text} (apart : e = .cr → t.head? ≠ some '\n') :
    lines (e.text ++ t) = [] :: lines t := by
  cases e with
  | lf => simp [LineEnd.text, lines, isBreak]
  | crlf => simp [LineEnd.text, lines]
  | cr =>
      have ends : isBreak '\r' = true := rfl
      rw [LineEnd.text, List.singleton_append, lines, if_pos ends]
      rintro rest - rfl
      exact apart rfl rfl

theorem lines_cons {c : Char} (plain : isBreak c = false) (t : Text) :
    lines (c :: t) = consHead c (lines t) := by
  rw [lines, if_neg (by simp [plain])]
  rintro rest rfl -
  cases plain

/-- Spelled with CR, a text has no LF to come behind one. -/
theorem head?_spelled_cr (t : Text) : (spelled .cr t).head? ≠ some '\n' := by
  cases t with
  | nil => simp [spelled]
  | cons c rest =>
      by_cases feed : c = '\n'
      · subst feed
        simp [spelled_feed, LineEnd.text]
      · simp [spelled_cons .cr feed, feed]

/-- **The lines of a text without CR are the same in all spellings.** -/
theorem lines_spelled {t : Text} (noReturn : '\r' ∉ t) : lines (spelled e t) = lines t := by
  induction t with
  | nil => rfl
  | cons c rest ih =>
      rw [List.mem_cons, not_or] at noReturn
      have same := ih noReturn.2
      by_cases feed : c = '\n'
      · subst feed
        have apart : e = .cr → (spelled e rest).head? ≠ some '\n' := by
          rintro rfl
          exact head?_spelled_cr rest
        have direct : lines ('\n' :: rest) = [] :: lines rest := lines_text .lf nofun
        rw [spelled_feed, lines_text e apart, direct, same]
      · have plain : isBreak c = false := by
          simp [isBreak, feed, Ne.symm noReturn.1]
        rw [spelled_cons e feed, lines_cons plain, lines_cons plain, same]

/-- Marks in front of a text are none of its line ends. -/
theorem dropWhile_spelled {c : Char} (plain : isBreak c = false) (t : Text) :
    (spelled e t).dropWhile (· == c) = spelled e (t.dropWhile (· == c)) := by
  induction t with
  | nil => rfl
  | cons d rest ih =>
      by_cases feed : d = '\n'
      · subst feed
        obtain ⟨other, ret⟩ := ne_of_not_isBreak plain
        rw [spelled_feed, List.dropWhile_cons, if_neg (by simpa using other.symm), spelled_feed]
        cases e <;> simp [LineEnd.text, other.symm, ret.symm]
      · rw [spelled_cons e feed, List.dropWhile_cons, List.dropWhile_cons, ih]
        split
        · rfl
        · rw [spelled_cons e feed]

end Text

namespace SourceLine

variable (e : LineEnd)

/-- **All spellings of a source have the same lines with the same numbers.** -/
theorem ofSource_spelled (path : Text) {source : Text} (noReturn : '\r' ∉ source) :
    ofSource path (Text.spelled e source) = ofSource path source := by
  have mark : Text.isBreak '\uFEFF' = false := rfl
  unfold ofSource
  rw [Text.dropWhile_spelled e mark]
  have within : '\r' ∉ source.dropWhile (· == '\uFEFF') :=
    fun member => noReturn ((List.dropWhile_sublist _).subset member)
  cases body : source.dropWhile (· == '\uFEFF') with
  | nil => rfl
  | cons c rest =>
      rw [body] at within
      have stripped : '\r' ∉ BlockComment.strip (c :: rest) :=
        fun member => within ((BlockComment.scan_sublist false _).subset member)
      obtain ⟨d, tail, same⟩ : ∃ d tail, Text.spelled e (c :: rest) = d :: tail :=
        List.exists_cons_of_ne_nil (by simp [Text.spelled_eq_nil])
      rw [same]
      dsimp only
      rw [← same, BlockComment.strip, BlockComment.scan_spelled]
      rw [← BlockComment.strip, Text.lines_spelled e stripped]

end SourceLine

/-- **The spelling of the line ends of a text does not matter**: any two of the three have the same
numbered lines and give the same extraction. The one with LF is the text itself. -/
theorem extract_spelled {σ : Type} (source : IdSource σ) (state : σ) (options : Options)
    (previous : Option (List (Scene Text))) (path text : Text) (noReturn : '\r' ∉ text) :
    Text.spelled .lf text = text ∧
      ∀ e e' : LineEnd,
        SourceLine.ofSource path (Text.spelled e text) =
            SourceLine.ofSource path (Text.spelled e' text) ∧
          extract source state options previous path (Text.spelled e text) =
            extract source state options previous path (Text.spelled e' text) := by
  refine ⟨Text.spelled_lf text, fun e e' => ?_⟩
  have same : SourceLine.ofSource path (Text.spelled e text) =
      SourceLine.ofSource path (Text.spelled e' text) := by
    rw [SourceLine.ofSource_spelled e path noReturn, SourceLine.ofSource_spelled e' path noReturn]
  exact ⟨same, by rw [extract, same, extract]⟩

/-- A comment over the end of a line, one that ends right before another, and an empty line. -/
theorem extract_spelled_over_comment :
    let text := "=== K\n#dink /* over\nlines */\n\nFRED: Hi. #id:a /*x*/\n".toList
    '\r' ∉ text ∧
      Text.spelled .crlf text =
        "=== K\r\n#dink /* over\r\nlines */\r\n\r\nFRED: Hi. #id:a /*x*/\r\n".toList ∧
      Text.spelled .cr text =
        "=== K\r#dink /* over\rlines */\r\rFRED: Hi. #id:a /*x*/\r".toList ∧
      extract .numbered 0 {} none "t.ink".toList (Text.spelled .crlf text) =
        extract .numbered 0 {} none "t.ink".toList (Text.spelled .cr text) := by
  have noReturn : '\r' ∉ "=== K\n#dink /* over\nlines */\n\nFRED: Hi. #id:a /*x*/\n".toList := by
    decide
  exact ⟨noReturn, by decide, by decide,
    ((extract_spelled .numbered 0 {} none "t.ink".toList _ noReturn).2 .crlf .cr).2⟩

end Beatsheet

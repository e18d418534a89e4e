/-
# Beatsheet.Proofs.Line.Choice — the text of a choice

A choice is recognised by a pattern (`Choice.pattern`): bullets with blanks around them, then a
bracket and whatever follows it or, only if that does not come to an end, a text without `#`; and
then perhaps tags. On one line the pattern finds the text that one would expect (`choice?_plain`).
All bullets and blanks are taken at once and never given back, for a text without a bracket can
always be read from there; and the shortest text that goes on to the end has no blanks behind it.
-/
import Beatsheet.Line.Flow
import Beatsheet.Proofs.Text.Pattern

set_option autoImplicit false

namespace Beatsheet.Line

open Text Pattern

namespace Choice

inductive Group where
  | bracketed
  | bare
  deriving DecidableEq

def lineRest : Pattern Group :=
  many (one (· != '\n'))

def bullet : Pattern Group :=
  seq blanks (one isBullet)

/-- A bracket ends with the first closing one; what follows that does not matter. -/
def bracket : Pattern Group :=
  seq (one (· == '[')) <| seq blanks <| seq (group .bracketed (few (one (· != ']')))) <|
    seq blanks <| seq (one (· == ']')) lineRest

def bare : Pattern Group :=
  group .bare (few (one (· != '#')))

/-- The tags of a choice, or nothing. -/
def tags : Pattern Group :=
  seq (opt (seq (one (· == '#')) lineRest)) stop

def pattern : Pattern Group :=
  seq bullet <| seq (many bullet) <| seq blanks <| seq (alt bracket bare) <| seq blanks tags

/-- What the groups say of the choice: of a bracket the part before its first `#`, and both without
blanks around them. -/
def text? (groups : List (Group × Text)) : Option Text :=
  match groups.lookup .bracketed with
  | some inside => some (untagged inside)
  | none => (groups.lookup .bare).map trim

/-- The text that the pattern finds in a line. -/
def capture? (line : Text) : Option Text :=
  (pattern.first? line).bind text?

/-! ## Bullets -/

def isLead (c : Char) : Bool :=
  isBlank c || isBullet c

theorem isBlank_of_isBullet {c : Char} (bullet : isBullet c = true) : isBlank c = false := by
  simp only [isBullet, Bool.or_eq_true, beq_iff_eq] at bullet
  rcases bullet with rfl | rfl <;> rfl

theorem head?_bullet {t rest : Text} {c : Char} (start : trimStart t = c :: rest)
    (first : isBullet c = true) : (bullet.ways t).head? = some ([], rest) := by
  refine head?_seq_blanks ?_
  rw [start]
  simp [ways, first]

theorem bullet_eq_nil {t : Text} (other : ∀ c rest, trimStart t = c :: rest → isBullet c = false) :
    bullet.ways t = [] := by
  refine ways_seq_blanks_eq_nil (fun c rest blank => ?_) ?_
  · have letter : isBullet c = false := by
      by_contra found
      rw [isBlank_of_isBullet (eq_true_of_ne_false found)] at blank
      cases blank
    simp [ways, letter]
  · cases start : trimStart t with
    | nil => rfl
    | cons c rest => simp [ways, other c rest start]

theorem dropWhile_isLead_trimStart (t : Text) :
    (trimStart t).dropWhile isLead = t.dropWhile isLead := by
  obtain ⟨lead, blank, eq⟩ := exists_blanks t
  conv => rhs; rw [eq]
  rw [List.dropWhile_append_of_pos fun c member => by rw [isLead, blank c member, Bool.true_or]]

/-- All bullets are taken, and behind them all blanks can be. -/
theorem head?_bullets {fuel : Nat} {t : Text} (enough : t.length ≤ fuel) :
    ∃ rest, (rounds bullet.ways false fuel t).head? = some ([], rest) ∧
      trimStart rest = t.dropWhile isLead := by
  induction fuel generalizing t with
  | zero =>
      obtain rfl := List.length_eq_zero_iff.mp (Nat.le_zero.mp enough)
      exact ⟨[], rfl, rfl⟩
  | succ fuel ih =>
      by_cases more : ∃ c rest, trimStart t = c :: rest ∧ isBullet c = true
      · obtain ⟨c, rest, start, first⟩ := more
        have shorter : rest.length < t.length := by
          have length := (List.dropWhile_suffix (l := t) isBlank).length_le
          rw [show t.dropWhile isBlank = c :: rest from start, List.length_cons] at length
          omega
        obtain ⟨last, found, ends⟩ := ih (by omega : rest.length ≤ fuel)
        refine ⟨last, ?_, ?_⟩
        · exact head?_rounds (head?_bullet start first) shorter found
        · have lead : isLead c = true := by rw [isLead, first, Bool.or_true]
          rw [ends, ← dropWhile_isLead_trimStart t, start, List.dropWhile_cons_of_pos lead]
      · have other : ∀ c rest, trimStart t = c :: rest → isBullet c = false :=
          fun c rest start => eq_false_of_ne_true fun first => more ⟨c, rest, start, first⟩
        refine ⟨t, ?_, ?_⟩
        · rw [rounds_of_nil (bullet_eq_nil other)]
          rfl
        · rw [← dropWhile_isLead_trimStart t]
          cases start : trimStart t with
          | nil => rfl
          | cons c rest =>
              have letter : isLead c = false := by
                rw [isLead, not_of_dropWhile start, other c rest start, Bool.or_false]
              rw [List.dropWhile_cons_of_neg (Bool.not_eq_true _ ▸ letter)]

/-! ## What follows the bullets -/

section Single

variable {t : Text}

theorem head?_lineRest (single : '\n' ∉ t) : (lineRest.ways t).head? = some ([], []) := by
  have all : t.dropWhile (· != '\n') = [] := List.dropWhile_eq_nil_iff.mpr (all_ne single)
  rw [lineRest, head?_ways_many_one, all]

/-- Tags go on to the end of a line, and so does nothing at its end. -/
theorem head?_tags (single : '\n' ∉ t) (start : ∀ c ∈ t.head?, c = '#') :
    (tags.ways t).head? = some ([], []) := by
  cases t with
  | nil => rfl
  | cons c rest =>
      obtain rfl := start c rfl
      have line : ((opt (seq (one (· == '#')) lineRest)).ways ('#' :: rest)).head? =
          some ([], []) := by
        rw [ways, List.head?_append, ways_seq_one_cons, if_pos (beq_self_eq_true '#'),
          head?_lineRest fun member => single (List.mem_cons_of_mem '#' member)]
        rfl
      exact head?_chain line rfl

theorem tags_eq_nil {c : Char} (other : (c != '#') = true) (rest : Text) :
    tags.ways (c :: rest) = [] := by
  have none_ : (c == '#') = false := by simpa using other
  simp [tags, ways, chain, none_]

/-- A text without a bracket goes on to the tags, and has no blanks at its end. -/
theorem head?_bare (single : '\n' ∉ t) :
    ((seq bare (seq blanks tags)).ways t).head? = some ([(.bare, trimEnd (before '#' t))], []) := by
  have split : t = before '#' t ++ t.dropWhile (· != '#') := List.takeWhile_append_dropWhile.symm
  have suffix : t.dropWhile (· != '#') <:+ t := List.dropWhile_suffix _
  have letters : ∀ c ∈ before '#' t, (c != '#') = true := fun c => List.mem_takeWhile_imp
  have start : trimStart (t.dropWhile (· != '#')) = t.dropWhile (· != '#') ∧
      ∀ c ∈ (t.dropWhile (· != '#')).head?, c = '#' := by
    cases rest : t.dropWhile (· != '#') with
    | nil => exact ⟨rfl, by simp⟩
    | cons c rest =>
        obtain rfl : c = '#' := by simpa using not_of_dropWhile rest
        exact ⟨rfl, by simp⟩
  have goesOn : (tags.ways (trimStart (t.dropWhile (· != '#')))).head? = some ([], []) := by
    rw [start.1]
    exact head?_tags (not_mem_of_suffix single suffix) start.2
  conv => lhs; rw [split]
  exact head?_trimmed letters (fun c blank => ne_of_isBlank blank rfl)
    (fun c rest other => tags_eq_nil other rest) goesOn

/-- What is needed behind the text in a bracket. -/
def closing : Pattern Group :=
  seq (one (· == ']')) lineRest

theorem closing_eq_nil {c : Char} (other : (c != ']') = true) (rest : Text) :
    closing.ways (c :: rest) = [] := by
  have none_ : (c == ']') = false := by simpa using other
  rw [closing, ways_seq_one_cons, none_, if_neg Bool.false_ne_true]

theorem closing_of_not_mem {u : Text} (unclosed : ']' ∉ u) : closing.ways u = [] := by
  cases u with
  | nil => rfl
  | cons c rest =>
      refine closing_eq_nil (bne_iff_ne.mpr ?_) rest
      rintro rfl
      exact unclosed List.mem_cons_self

theorem trimStart_append_cons {c : Char} (letter : isBlank c = false) (u rest : Text) :
    trimStart (u ++ c :: rest) = trimStart u ++ c :: rest := by
  cases start : trimStart u with
  | nil =>
      rw [trimStart_blanks ((trimStart_eq_nil_iff u).mp start)]
      simp [trimStart, letter]
  | cons d more => rw [trimStart_append (by simp [start]), start]

theorem head?_bracket {inside tail : Text} (closed : ']' ∉ inside) (single : '\n' ∉ tail) :
    (bracket.ways ('[' :: (inside ++ ']' :: tail))).head? =
      some ([(.bracketed, trim inside)], []) := by
  have line : (closing.ways (trimStart (']' :: tail))).head? = some ([], []) := by
    rw [show trimStart (']' :: tail) = ']' :: tail from rfl, closing, ways_seq_one_cons,
      if_pos (beq_self_eq_true ']'), head?_lineRest single]
  have letters : ∀ c ∈ trimStart inside, (c != ']') = true :=
    all_ne (not_mem_of_suffix closed (suffix_trimStart inside))
  have text : ((seq (group .bracketed (few (one (· != ']')))) (seq blanks closing)).ways
      (trimStart inside ++ ']' :: tail)).head? = some ([(.bracketed, trim inside)], []) :=
    head?_trimmed letters (fun c blank => ne_of_isBlank blank rfl)
      (fun c rest other => closing_eq_nil other rest) line
  rw [bracket, ways_seq_one_cons, if_pos (beq_self_eq_true '[')]
  refine head?_seq_blanks ?_
  rw [trimStart_append_cons rfl]
  exact text

theorem bracket_eq_nil (open_ : ∀ inside tail, t ≠ '[' :: (inside ++ ']' :: tail)) :
    bracket.ways t = [] := by
  cases t with
  | nil => rfl
  | cons c rest =>
      rw [bracket, ways_seq_one_cons]
      split
      · rename_i first
        obtain rfl : c = '[' := by simpa using first
        have unclosed : ']' ∉ rest := by
          intro member
          obtain ⟨inside, tail, eq⟩ := List.append_of_mem member
          exact open_ inside tail (congrArg ('[' :: ·) eq)
        refine chain_eq_nil fun way member => ?_
        obtain ⟨lead, -, eq⟩ := of_mem_ways_many_one member
        refine chain_eq_nil fun later inside => ?_
        rw [ways_group_few_one] at inside
        obtain ⟨cut, inSplits, rfl⟩ := List.mem_map.mp inside
        have suffix : cut.2 <:+ rest :=
          (List.IsSuffix.trans ⟨cut.1, (of_mem_splits inSplits).2.symm⟩ ⟨lead, eq.symm⟩)
        refine ways_seq_blanks_eq_nil (fun d more blank => ?_) ?_
        · exact closing_eq_nil (ne_of_isBlank blank rfl) more
        · exact closing_of_not_mem
            (not_mem_of_suffix unclosed ((suffix_trimStart cut.2).trans suffix))
      · rfl

end Single

/-! ## Whole lines -/

section Whole

variable {line rest : Text}

/-- A line with a bullet in front is matched as what follows all of its bullets and blanks is. -/
theorem first?_of_bullet {c : Char} {behind : Text} (start : trimStart line = c :: behind)
    (first : isBullet c = true) {groups : List (Group × Text)}
    (found : ((seq (alt bracket bare) (seq blanks tags)).ways (line.dropWhile isLead)).head? =
      some (groups, [])) : pattern.first? line = some groups := by
  obtain ⟨left, bullets, ends⟩ := head?_bullets (Nat.le_refl behind.length)
  have lead : isLead c = true := by rw [isLead, first, Bool.or_true]
  have same : trimStart left = line.dropWhile isLead := by
    rw [ends, ← dropWhile_isLead_trimStart line, start, List.dropWhile_cons_of_pos lead]
  have whole : (pattern.ways line).head? = some ([] ++ ([] ++ groups), []) := by
    refine head?_chain (head?_bullet start first) (head?_chain bullets ?_)
    exact head?_seq_blanks (same ▸ found)
  rw [Pattern.first?, whole]
  rfl

theorem afterBullets?_of_bullet {c : Char} {behind : Text} (start : trimStart line = c :: behind)
    (first : isBullet c = true) : afterBullets? line = some (line.dropWhile isLead) := by
  have lead : isLead c = true := by rw [isLead, first, Bool.or_true]
  rw [← dropWhile_isLead_trimStart line, afterBullets?, start, List.dropWhile_cons_of_pos lead]
  simp only [first, if_true]
  rfl

/-- The first letter is where the blanks end. -/
theorem find?_letter (t : Text) : t.find? (!isBlank ·) = (trimStart t).head? := by
  induction t with
  | nil => rfl
  | cons c rest ih => cases blank : isBlank c <;> simp [trimStart, blank, ih]

/-- Blanks around a text do not matter for what stands before its tags. -/
theorem untagged_trim (t : Text) : untagged (trim t) = untagged t := by
  have apart : ∀ {blanks : Text}, (∀ c ∈ blanks, isBlank c = true) →
      ∀ c ∈ blanks, (c != '#') = true :=
    fun blank c member => ne_of_isBlank (blank c member) rfl
  have behind : ∀ u : Text, untagged (trimEnd u) = untagged u := by
    intro u
    obtain ⟨blanks, blank, eq⟩ := exists_trimEnd u
    conv => rhs; rw [eq]
    simp only [untagged, before]
    rw [List.takeWhile_append]
    split
    · rename_i whole
      have all := (List.takeWhile_prefix (l := trimEnd u) (· != '#')).eq_of_length whole
      rw [all, List.takeWhile_eq_self_iff.mpr (apart blank), ← trimStart_trimEnd,
        ← trimStart_trimEnd, trimEnd_blanks blank]
    · rfl
  obtain ⟨lead, blank, eq⟩ := exists_blanks t
  rw [trim, behind]
  conv => rhs; rw [eq]
  rw [untagged, untagged, before, before, List.takeWhile_append_of_pos (apart blank), trim, trim,
    trimStart_blanks blank]

/-- A bracket ends with the first closing one. -/
theorem before_of_closed {inside : Text} (closed : ']' ∉ inside) (tail : Text) :
    before ']' (inside ++ ']' :: tail) = inside := by
  rw [before, List.takeWhile_append_of_pos (all_ne closed)]
  simp

/-- The pattern finds the text in the bracket, and so does the reader of choices. -/
theorem of_bracket {c : Char} {behind : Text} (start : trimStart line = c :: behind)
    (first : isBullet c = true) {inside tail : Text} (single : '\n' ∉ tail)
    (found : line.dropWhile isLead = '[' :: (inside ++ ']' :: tail)) (closed : ']' ∉ inside) :
    capture? line = some (untagged inside) ∧ choice? line = some (untagged inside) := by
  constructor
  · have groups : pattern.first? line = some [(.bracketed, trim inside)] := by
      refine first?_of_bullet start first ?_
      have text : (bracket.ways (line.dropWhile isLead)).head? =
          some ([(.bracketed, trim inside)], []) := found ▸ head?_bracket closed single
      have last : ((seq blanks tags).ways []).head? = some ([], []) := rfl
      have whole : ((seq bracket (seq blanks tags)).ways (line.dropWhile isLead)).head? =
          some ([(.bracketed, trim inside)], []) := head?_chain text last
      rw [ways_seq_alt, List.head?_append, whole]
      rfl
    rw [capture?, groups, Option.bind_some, ← untagged_trim inside]
    rfl
  · have ends : (tail.dropWhile (· != '\n')) = [] := List.dropWhile_eq_nil_iff.mpr (all_ne single)
    have closes : (inside ++ ']' :: tail).dropWhile (· != ']') = ']' :: tail := by
      rw [List.dropWhile_append_of_pos (all_ne closed)]
      rfl
    have text : bracketed? ('[' :: (inside ++ ']' :: tail)) = some inside := by
      simp [bracketed?, closes, endsChoice, ends, trimStart, before_of_closed closed]
    simp [choice?, afterBullets?_of_bullet start first, found, text]

/-- Without a bullet in front, neither finds anything. -/
theorem of_no_bullet (other : ∀ c rest, trimStart line = c :: rest → isBullet c = false) :
    capture? line = none ∧ choice? line = none := by
  constructor
  · have none_ : pattern.ways line = [] := by
      rw [pattern, ways, chain, bullet_eq_nil other, List.flatMap_nil]
    rw [capture?, Pattern.first?, none_]
    rfl
  · have none_ : afterBullets? line = none := by
      cases start : trimStart line with
      | nil => rw [afterBullets?, start]
      | cons c rest => simp [afterBullets?, start, other c rest start]
    rw [choice?, none_]
    rfl

/-- Where there is no bracket, both find the text without it. -/
theorem of_bare {c : Char} {behind : Text} (start : trimStart line = c :: behind)
    (first : isBullet c = true) (single : '\n' ∉ line.dropWhile isLead)
    (open_ : ∀ inside tail, line.dropWhile isLead ≠ '[' :: (inside ++ ']' :: tail)) :
    capture? line = some (untagged (line.dropWhile isLead)) ∧
      choice? line = some (untagged (line.dropWhile isLead)) := by
  constructor
  · have groups : pattern.first? line =
        some [(.bare, trimEnd (before '#' (line.dropWhile isLead)))] := by
      refine first?_of_bullet start first ?_
      have none_ : (seq bracket (seq blanks tags)).ways (line.dropWhile isLead) = [] := by
        rw [ways, chain, bracket_eq_nil open_, List.flatMap_nil]
      rw [ways_seq_alt, none_, List.nil_append, head?_bare single]
    rw [capture?, groups, Option.bind_some]
    exact congrArg some (trim_trimEnd _)
  · have text : bracketed? (line.dropWhile isLead) = none := by
      unfold bracketed?
      split
      · rename_i rest eq
        split
        · rfl
        · rename_i d tail cut
          refine absurd (congrArg ('[' :: ·) ?_) (eq ▸ open_ (before ']' rest) tail)
          obtain rfl : d = ']' := by simpa using not_of_dropWhile cut
          exact (cut ▸ List.takeWhile_append_dropWhile.symm)
      · rfl
    have one : '\n' ∉ (line.dropWhile isLead).dropWhile (· != '#') :=
      not_mem_of_suffix single (List.dropWhile_suffix (· != '#'))
    simp [choice?, afterBullets?_of_bullet start first, text, one]

end Whole

end Choice

/-- **What a choice on one line says.** There is one if the first character that is no blank is a
bullet. Behind all bullets and the blanks around them it is the text in the bracket, if the first
thing there is one, or else all that is there; both before their first `#` and trimmed. -/
theorem choice?_plain {line : Text} (single : '\n' ∉ line) :
    choice? line = Choice.capture? line ∧
    ((choice? line).isSome ↔ ∃ c, line.find? (!isBlank ·) = some c ∧ isBullet c) ∧
    ∀ text, choice? line = some text →
      ∀ rest, rest = line.dropWhile (fun c => isBlank c || isBullet c) →
        (∀ inside tail, rest = '[' :: (inside ++ ']' :: tail) → ']' ∉ inside →
          text = trim (before '#' inside)) ∧
        ((∀ tail, rest = '[' :: tail → ']' ∉ tail) → text = trim (before '#' rest)) := by
  have single' : '\n' ∉ line.dropWhile Choice.isLead :=
    not_mem_of_suffix single (List.dropWhile_suffix Choice.isLead)
  by_cases bullet : ∃ c behind, trimStart line = c :: behind ∧ isBullet c = true
  · obtain ⟨c, behind, start, first⟩ := bullet
    have found : ∃ c, line.find? (!isBlank ·) = some c ∧ isBullet c = true :=
      ⟨c, by rw [Choice.find?_letter, start]; rfl, first⟩
    by_cases closed : ∃ tail, line.dropWhile Choice.isLead = '[' :: tail ∧ ']' ∈ tail
    · obtain ⟨behind, eq, member⟩ := closed
      obtain ⟨inside, tail, rfl, unclosed⟩ := List.eq_append_cons_of_mem member
      have single'' : '\n' ∉ tail :=
        not_mem_of_suffix single' ⟨'[' :: (inside ++ [']']), by simp [eq]⟩
      obtain ⟨captured, read⟩ := Choice.of_bracket start first single'' eq unclosed
      refine ⟨read.trans captured.symm, by simp [read, found], ?_⟩
      rintro text is rest rfl
      obtain rfl := Option.some.inj (read.symm.trans is)
      refine ⟨fun inside' tail' eq' closed => ?_, fun open_ => absurd member (open_ _ eq)⟩
      have same := congrArg (before ']') (List.cons.inj (eq.symm.trans eq')).2
      rw [Choice.before_of_closed unclosed, Choice.before_of_closed closed] at same
      rw [same, untagged]
    · have open_ : ∀ inside tail, line.dropWhile Choice.isLead ≠ '[' :: (inside ++ ']' :: tail) :=
        fun inside tail eq => closed ⟨_, eq, by simp⟩
      obtain ⟨captured, read⟩ := Choice.of_bare start first single' open_
      refine ⟨read.trans captured.symm, by simp [read, found], ?_⟩
      rintro text is rest rfl
      obtain rfl := Option.some.inj (read.symm.trans is)
      exact ⟨fun inside tail eq => absurd eq (open_ inside tail), fun _ => rfl⟩
  · have other : ∀ c rest, trimStart line = c :: rest → isBullet c = false :=
      fun c rest start => eq_false_of_ne_true fun first => bullet ⟨c, rest, start, first⟩
    obtain ⟨captured, read⟩ := Choice.of_no_bullet other
    have none_ : ¬ ∃ c, line.find? (!isBlank ·) = some c ∧ isBullet c = true := by
      rintro ⟨c, found, first⟩
      rw [Choice.find?_letter] at found
      obtain ⟨behind, start⟩ := List.head?_eq_some_iff.mp found
      exact bullet ⟨c, behind, start, first⟩
    exact ⟨read.trans captured.symm, by simp only [read, none_]; simp, by simp [read]⟩

/-- Bullets with blanks between them, tags inside and behind the first of two closing brackets; and
a bracket without a closing one. -/
theorem choice?_plain_of_brackets :
    choice? " * + [ a b #c ] d ] #e".toList = some "a b".toList ∧
    choice? "+*[ a #b".toList = some "[ a".toList := by
  obtain ⟨-, first, closed⟩ :=
    choice?_plain (by decide +kernel : '\n' ∉ " * + [ a b #c ] d ] #e".toList)
  obtain ⟨-, second, unclosed⟩ := choice?_plain (by decide +kernel : '\n' ∉ "+*[ a #b".toList)
  obtain ⟨text, found⟩ := Option.isSome_iff_exists.mp (first.mpr ⟨'*', by decide +kernel, rfl⟩)
  obtain ⟨other, read⟩ := Option.isSome_iff_exists.mp (second.mpr ⟨'+', by decide +kernel, rfl⟩)
  have inside := (closed text found "[ a b #c ] d ] #e".toList (by decide +kernel)).1
    " a b #c ".toList " d ] #e".toList (by decide +kernel) (by decide +kernel)
  have behind := (unclosed other read "[ a #b".toList (by decide +kernel)).2 fun tail eq => by
    obtain rfl : " a #b".toList = tail := (List.cons.inj eq).2
    decide +kernel
  have left : trim (before '#' " a b #c ".toList) = "a b".toList := by decide +kernel
  have right : trim (before '#' "[ a #b".toList) = "[ a".toList := by decide +kernel
  exact ⟨by rw [found, inside, left], by rw [read, behind, right]⟩

end Beatsheet.Line

/-
# Beatsheet.Proofs.Line.LabelForm — the form of a label

A label is a clause with a colon and nothing else behind it. The clause is made of brackets, each of
which ends with its first closing one, and of other characters; its first character is none of those
that mark another kind of line (`Label.IsClause`). Outside of brackets a clause may hold colons and
closing brackets, so a line may have several places where it could end; but only the last colon can
have nothing behind it, and a clause does not end with a blank. So a line is a clause and a colon in
one way at most (`Label.Forms.unique`), and it does not matter that the shortest clause is looked
for.

`label?_eq_some_iff` says which clauses are labels: all but those that are speakers.
-/
import Beatsheet.Proofs.Line.Choice
import Beatsheet.Proofs.Line.Label
import Beatsheet.Proofs.Text.Language

set_option autoImplicit false

namespace Beatsheet.Line

open Text Pattern

namespace Label

/-! ## Forms -/

/-- What a label is made of. -/
structure IsClause (clause : Text) : Prop where
  some_ : clause ≠ []
  start : ∀ c ∈ clause.head?, c ∉ "-*+=/\x7b\x7d".toList
  units : Unspaced clause

/-- A line that is a clause and a colon, with nothing but blanks around the colon. -/
def Forms (line clause : Text) : Prop :=
  IsClause clause ∧ ∃ lead trail, (∀ c ∈ lead, isBlank c = true) ∧ (∀ c ∈ trail, isBlank c = true) ∧
    line = clause ++ lead ++ ':' :: trail

/-- A clause that is a speaker: a name led by a capital, with one bracket behind it or none. -/
def IsSpeaker (clause : Text) : Prop :=
  ∃ name bracket, name.head?.any Char.isUpper = true ∧ (∀ c ∈ name, isSpeakerChar c = true) ∧
    (bracket = [] ∨ ∃ inside, ')' ∉ inside ∧ bracket = '(' :: inside ++ [')']) ∧
    clause = name ++ bracket

variable {line clause : Text}

theorem trimEnd_of_unspaced (units : Unspaced clause) : trimEnd clause = clause := by
  induction units with
  | nil => rfl
  | letter letter mark bracket behind ih => rw [trimEnd_cons letter, ih]
  | bracket closing behind ih => rw [trimEnd_append_cons (by decide), ih]

/-- A line is a clause and a colon in one way only. -/
theorem Forms.unique {other : Text} (forms : Forms line clause) (forms' : Forms line other) :
    clause = other := by
  have only {clause : Text} (forms : Forms line clause) :
      clause = trimEnd (trimEnd line).dropLast := by
    obtain ⟨⟨-, -, units⟩, lead, trail, leads, trails, rfl⟩ := forms
    have none_ : trimEnd trail = [] := trimEnd_blanks trails []
    rw [trimEnd_append_cons (by decide), none_, List.dropLast_concat, trimEnd_blanks leads,
      trimEnd_of_unspaced units]
  rw [only forms, only forms']

/-! ## Speakers -/

/-- Blanks stand in the brackets of a clause only. -/
theorem not_blank_of_unspaced {front back : Text} {c : Char} (units : Unspaced (front ++ c :: back))
    (bracketless : '(' ∉ front) : isBlank c = false := by
  induction front with
  | nil =>
      generalize held : [] ++ c :: back = whole at units
      cases units with
      | nil => cases held
      | letter letter mark bracket behind => exact (List.cons.inj held).1 ▸ letter
      | bracket closing behind => exact (List.cons.inj held).1 ▸ rfl
  | cons d front ih =>
      rw [List.mem_cons, not_or] at bracketless
      generalize held : d :: front ++ c :: back = whole at units
      cases units with
      | nil => cases held
      | letter letter mark bracket behind =>
          obtain ⟨rfl, rfl⟩ := List.cons.inj held
          exact ih behind bracketless.2
      | bracket closing behind => exact absurd (List.cons.inj held).1.symm bracketless.1

theorem isSpeaker_iff (units : Unspaced clause) : isSpeaker clause = true ↔ IsSpeaker clause := by
  constructor
  · intro speaker
    obtain ⟨name, behind, rfl, capital, letters, shape⟩ := exists_of_isSpeaker speaker
    refine ⟨name, behind, capital, letters, ?_, rfl⟩
    rcases shape with rfl | ⟨lead, inside, leads, closing, rfl⟩
    · exact .inl rfl
    · cases lead with
      | nil => exact .inr ⟨inside, closing, rfl⟩
      | cons c lead =>
          have bracketless : '(' ∉ name := fun member => nomatch letters '(' member
          have letter := not_blank_of_unspaced units bracketless
          rw [leads c List.mem_cons_self] at letter
          cases letter
  · rintro ⟨name, bracket, capital, letters, shape, rfl⟩
    refine isSpeaker_append capital letters ?_
    rcases shape with rfl | ⟨inside, closing, rfl⟩
    · exact .inl rfl
    · exact .inr ⟨[], inside, List.forall_mem_nil _, closing, rfl⟩

/-! ## Reading a label -/

/-- The clause of a label, before it is looked at for a speaker. -/
def clause? : Text → Option Text
  | [] => none
  | c :: rest =>
    if c == '(' || isLabelStart c then (labelRest? (c == '(') rest).map (c :: ·) else none

theorem label?_eq (line : Text) :
    label? line = (clause? line).filter fun clause => !isSpeaker clause := by
  have shape : label? line =
      (clause? line).bind fun clause => if isSpeaker clause then none else some clause := by
    cases line with
    | nil => rfl
    | cons c rest =>
        simp only [label?, clause?]
        split <;> rfl
  rw [shape]
  cases clause? line with
  | none => rfl
  | some clause => cases speaker : isSpeaker clause <;> simp [speaker, Option.filter]

theorem isLabelStart_iff (c : Char) :
    isLabelStart c = true ↔
      isBlank c = false ∧ c ≠ '#' ∧ c ≠ '(' ∧ c ∉ "-*+=/\x7b\x7d".toList := by
  simp [isLabelStart, and_comm, and_assoc, and_left_comm]

theorem forms_of_clause? (found : clause? line = some clause) : Forms line clause := by
  cases line with
  | nil => cases found
  | cons c rest =>
      rw [clause?, Option.ite_none_right_eq_some, Option.map_eq_some_iff] at found
      obtain ⟨start, label, more, rfl⟩ := found
      obtain ⟨units, lead, trail, leads, trails, rfl⟩ := unspaced_labelRest? more
      refine ⟨⟨List.cons_ne_nil _ _, ?_, ?_⟩, lead, trail, leads, trails, rfl⟩
      all_goals by_cases bracket : c = '('
      · subst bracket
        simp
      · obtain ⟨-, -, -, mark⟩ := (isLabelStart_iff c).mp (by simpa [bracket] using start)
        simpa using mark
      · subst bracket
        exact units
      · obtain ⟨letter, mark, -, -⟩ := (isLabelStart_iff c).mp (by simpa [bracket] using start)
        rw [if_neg (by simpa using bracket)] at units
        exact .letter letter mark bracket units

theorem clause?_eq_some_iff : clause? line = some clause ↔ Forms line clause := by
  refine ⟨forms_of_clause?, fun forms => ?_⟩
  -- A clause is found, and there is only one that it can be.
  suffices read : (clause? line).isSome = true by
    obtain ⟨other, found⟩ := Option.isSome_iff_exists.mp read
    rw [found, (forms_of_clause? found).unique forms]
  obtain ⟨⟨some_, start, units⟩, lead, trail, leads, trails, rfl⟩ := forms
  cases units with
  | nil => exact absurd rfl some_
  | @letter c rest letter mark bracket behind =>
      have starts : isLabelStart c = true :=
        (isLabelStart_iff c).mpr ⟨letter, mark, bracket, start c rfl⟩
      have other : (c == '(') = false := by simpa using bracket
      rw [List.cons_append, List.cons_append, clause?, starts, other, Bool.or_true, if_pos rfl,
        Option.isSome_map]
      exact isSome_labelRest? behind leads trails
  | @bracket inside rest closing behind =>
      have split : '(' :: inside ++ ')' :: rest ++ lead ++ ':' :: trail =
          '(' :: (inside ++ ')' :: (rest ++ lead ++ ':' :: trail)) := by simp
      rw [split, clause?, beq_self_eq_true, Bool.true_or, if_pos rfl, Option.isSome_map,
        labelRest?_bracket closing, Option.isSome_map]
      exact isSome_labelRest? behind leads trails

/-! ## The pattern -/

inductive Group where
  | clause
  deriving DecidableEq

def bracketed : Pattern Group :=
  seq (one (· == '(')) <| seq (many (one (· != ')'))) (one (· == ')'))

/-- A unit of a clause, a bracket or a character of a class. -/
def unit (letter : Char → Bool) : Pattern Group :=
  alt bracketed (one letter)

/-- Whether a character may stand outside of brackets. -/
def isLetter (c : Char) : Bool :=
  !("#(".toList.contains c || isBlank c)

def colon : Pattern Group :=
  seq blanks <| seq (one (· == ':')) blanks

def pattern : Pattern Group :=
  seq (group .clause (seq (unit isLabelStart) (few (unit isLetter)))) <| seq colon stop

/-- The label that the pattern finds in a line. -/
def capture? (line : Text) : Option Text :=
  ((pattern.first? line).bind (·.lookup .clause)).filter fun clause => !isSpeaker clause

theorem mem_bracketed_iff {w : Text} :
    w ∈ bracketed.language ↔ ∃ inside, ')' ∉ inside ∧ w = '(' :: inside ++ [')'] := by
  rw [bracketed, mem_language_seq_one]
  constructor
  · rintro ⟨c, _, open_, tail, rfl⟩
    obtain ⟨inside, letters, _, ⟨d, close, rfl⟩, rfl⟩ := Language.mem_mul.mp tail
    obtain rfl := beq_iff_eq.mp open_
    obtain rfl := beq_iff_eq.mp close
    refine ⟨inside, fun member => ?_, rfl⟩
    exact bne_iff_ne.mp (mem_language_many_one.mp letters ')' member) rfl
  · rintro ⟨inside, closing, rfl⟩
    refine ⟨'(', inside ++ [')'], rfl, ?_, rfl⟩
    refine Language.mem_mul.mpr ⟨inside, ?_, [')'], ⟨')', rfl, rfl⟩, rfl⟩
    exact mem_language_many_one.mpr (all_ne closing)

theorem isLetter_iff (c : Char) : isLetter c = true ↔ isBlank c = false ∧ c ≠ '#' ∧ c ≠ '(' := by
  simp [isLetter, and_comm, and_assoc]

theorem mem_units_iff {w : Text} : w ∈ (few (unit isLetter)).language ↔ Unspaced w := by
  constructor
  · intro member
    obtain ⟨parts, rfl, all⟩ := Language.mem_kstar.mp member
    induction parts with
    | nil => exact .nil
    | cons part parts ih =>
        obtain ⟨here, others⟩ := List.forall_mem_cons.mp all
        have behind := ih others (Language.join_mem_kstar others)
        rcases here with bracket | ⟨c, letter, rfl⟩
        · obtain ⟨inside, closing, rfl⟩ := mem_bracketed_iff.mp bracket
          have unit := Unspaced.bracket closing behind
          rwa [List.append_cons] at unit
        · obtain ⟨letter, mark, bracket⟩ := (isLetter_iff c).mp letter
          exact .letter letter mark bracket behind
  · intro units
    induction units with
    | nil => exact Language.nil_mem_kstar _
    | @letter c rest letter mark bracket behind ih =>
        have here : [c] ∈ (unit isLetter).language :=
          .inr ⟨c, (isLetter_iff c).mpr ⟨letter, mark, bracket⟩, rfl⟩
        exact mem_kstar_iff.mpr (.inr ⟨[c], here, List.cons_ne_nil _ _, rest, ih, rfl⟩)
    | @bracket inside rest closing behind ih =>
        have here : '(' :: inside ++ [')'] ∈ (unit isLetter).language :=
          .inl (mem_bracketed_iff.mpr ⟨inside, closing, rfl⟩)
        refine mem_kstar_iff.mpr (.inr ⟨_, here, List.cons_ne_nil _ _, rest, ih, ?_⟩)
        rw [List.append_cons]

theorem mem_clause_iff {w : Text} :
    w ∈ (seq (unit isLabelStart) (few (unit isLetter))).language ↔ IsClause w := by
  constructor
  · intro member
    obtain ⟨first, here, rest, behind, rfl⟩ := Language.mem_mul.mp member
    have behind := mem_units_iff.mp behind
    rcases here with bracket | ⟨c, start, rfl⟩
    · obtain ⟨inside, closing, rfl⟩ := mem_bracketed_iff.mp bracket
      have units := Unspaced.bracket closing behind
      rw [List.append_cons] at units
      exact ⟨List.cons_ne_nil _ _, by simp, units⟩
    · obtain ⟨letter, mark, bracket, apart⟩ := (isLabelStart_iff c).mp start
      exact ⟨List.cons_ne_nil _ _, by simpa using apart, .letter letter mark bracket behind⟩
  · rintro ⟨some_, start, units⟩
    cases units with
    | nil => exact absurd rfl some_
    | @letter c rest letter mark bracket behind =>
        refine Language.mem_mul.mpr ⟨[c], .inr ⟨c, ?_, rfl⟩, rest, mem_units_iff.mpr behind, rfl⟩
        exact (isLabelStart_iff c).mpr ⟨letter, mark, bracket, start c rfl⟩
    | @bracket inside rest closing behind =>
        have here := mem_bracketed_iff.mpr ⟨inside, closing, rfl⟩
        refine Language.mem_mul.mpr ⟨_, .inl here, rest, mem_units_iff.mpr behind, ?_⟩
        rw [← List.append_cons]

theorem mem_colon_iff {w : Text} :
    w ∈ colon.language ↔ ∃ lead trail, (∀ c ∈ lead, isBlank c = true) ∧
      (∀ c ∈ trail, isBlank c = true) ∧ w = lead ++ ':' :: trail := by
  constructor
  · intro member
    obtain ⟨lead, leads, behind, colon, rfl⟩ := Language.mem_mul.mp member
    obtain ⟨c, trail, same, trails, rfl⟩ := mem_language_seq_one.mp colon
    obtain rfl := beq_iff_eq.mp same
    exact ⟨lead, trail, mem_language_many_one.mp leads, mem_language_many_one.mp trails, rfl⟩
  · rintro ⟨lead, trail, leads, trails, rfl⟩
    refine Language.mem_mul.mpr ⟨lead, mem_language_many_one.mpr leads, ':' :: trail, ?_, rfl⟩
    exact mem_language_seq_one.mpr ⟨':', trail, rfl, mem_language_many_one.mpr trails, rfl⟩

/-- The pattern matches a line in no other way than as a clause and a colon. -/
theorem mem_ways_pattern {g : List (Group × Text)} {r : Text} :
    (g, r) ∈ pattern.ways line ↔
      r = [] ∧ ∃ clause, Forms line clause ∧ g = [(.clause, clause)] := by
  have clausePlain : (seq (unit isLabelStart) (few (unit isLetter))).Plain :=
    ⟨⟨⟨trivial, trivial, trivial⟩, trivial⟩, ⟨trivial, trivial, trivial⟩, trivial⟩
  have colonPlain : colon.Plain := ⟨trivial, trivial, trivial⟩
  simp only [pattern, mem_ways_seq, mem_ways_group clausePlain, mem_ways_iff colonPlain,
    mem_ways_stop, mem_clause_iff, mem_colon_iff]
  constructor
  · rintro ⟨_, _, _, ⟨clause, isClause, rfl, rfl⟩, ⟨_, _, _, ⟨rfl, _, ⟨lead, trail, leads, trails,
      rfl⟩, rfl⟩, ⟨rfl, rfl, rfl⟩, rfl⟩, rfl⟩
    exact ⟨rfl, clause, ⟨isClause, lead, trail, leads, trails, by simp⟩, rfl⟩
  · rintro ⟨rfl, clause, ⟨isClause, lead, trail, leads, trails, rfl⟩, rfl⟩
    refine ⟨_, [], lead ++ ':' :: trail, ⟨clause, isClause, List.append_assoc _ _ _, rfl⟩, ?_, rfl⟩
    exact ⟨[], [], [], ⟨rfl, _, ⟨lead, trail, leads, trails, rfl⟩, (List.append_nil _).symm⟩,
      ⟨rfl, rfl, rfl⟩, rfl⟩

theorem capture?_eq (line : Text) : capture? line = label? line := by
  have found : (pattern.first? line).bind (·.lookup .clause) = clause? line := by
    cases ways : pattern.ways line with
    | nil =>
        have none_ : clause? line = none := by
          rw [Option.eq_none_iff_forall_ne_some]
          intro clause found
          have way := mem_ways_pattern.mpr ⟨rfl, clause, clause?_eq_some_iff.mp found, rfl⟩
          rw [ways] at way
          cases way
        rw [none_, first?, ways]
        rfl
    | cons way others =>
        obtain ⟨-, clause, forms, groups⟩ :=
          mem_ways_pattern.mp (ways ▸ List.mem_cons_self : (way.1, way.2) ∈ pattern.ways line)
        rw [clause?_eq_some_iff.mpr forms, first?, ways, List.head?_cons, Option.map_some, groups]
        rfl
  rw [capture?, found, label?_eq]

end Label

/-- **Which lines are labels, and what they say.** The recogniser is the pattern, and a line is a
label just if it is a clause and a colon and the clause is no speaker. In no line there are two
clauses to choose from. -/
theorem label?_eq_some_iff (line : Text) :
    label? line = Label.capture? line ∧
    (∀ clause, label? line = some clause ↔ Label.Forms line clause ∧ ¬ Label.IsSpeaker clause) ∧
    {clause | Label.Forms line clause}.Subsingleton := by
  refine ⟨(Label.capture?_eq line).symm, fun clause => ?_, fun _ forms _ => forms.unique⟩
  rw [Label.label?_eq, Option.filter_eq_some_iff, Label.clause?_eq_some_iff, Bool.not_eq_true',
    ← Bool.not_eq_true]
  exact and_congr_right fun forms => not_congr (Label.isSpeaker_iff forms.1.units)

example : label? "d):(a: (b):Y : ".toList = some "d):(a: (b):Y".toList := by decide +kernel

end Beatsheet.Line

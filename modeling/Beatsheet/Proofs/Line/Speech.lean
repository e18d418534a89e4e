/-
# Beatsheet.Proofs.Line.Speech — lines of speech

A line of speech has the name of a speaker, perhaps a bracket behind it, a colon and something to
say (`Speech.parts`). It starts with a dash or with a character of the name, so it is no line of
tags, no header and no comment; and what stands behind its first colon is not blank, so it is no
bare clause either. Unless it is a statement it is prose (`Kind.ofLine_speech`).

Behind a dash a clause ends at the first colon (`Clause.split?_append`), speech at the first one
that stands outside the bracket. Where the bracket holds neither a colon nor a closing bracket, the
clause is the speaker with the bracket, and so no clause at all (`Clause.ofLine?_speech`).
-/
import Beatsheet.Proofs.Line.Trailing

set_option autoImplicit false

namespace Beatsheet

open Text

namespace Line

/-! ## Speakers -/

theorem isBlank_of_isSpeakerChar {c : Char} (speaker : isSpeakerChar c = true) :
    isBlank c = false := by
  have range : 48 ≤ c.toNat ∧ c.toNat ≤ 57 ∨ 65 ≤ c.toNat ∧ c.toNat ≤ 95 := by
    have capital : c.isUpper = decide (c.val ≥ 'A'.val ∧ c.val ≤ 'Z'.val) := rfl
    simp only [isSpeakerChar, capital, Char.isDigit, Bool.or_eq_true, Bool.and_eq_true,
      decide_eq_true_eq, beq_iff_eq, ge_iff_le, UInt32.le_iff_toNat_le] at speaker
    rcases speaker with (upper | digit) | rfl
    · exact .inr ⟨upper.1, upper.2.trans (by decide)⟩
    · exact .inl digit
    · exact .inr (by decide)
  simp only [isBlank, blankRanges, inRanges]
  grind

theorem isSpeakerChar_eq_false {c : Char} (blank : isBlank c = true) : isSpeakerChar c = false := by
  by_contra speaker
  rw [isBlank_of_isSpeakerChar (eq_true_of_ne_false speaker)] at blank
  cases blank

/-- The name at the start of a text ends where something else than a name follows, blanks apart. -/
theorem dropWhile_isSpeakerChar {name t rest : Text} {c : Char}
    (letters : ∀ d ∈ name, isSpeakerChar d = true) (start : trimStart t = c :: rest)
    (other : isSpeakerChar c = false) : (name ++ t).dropWhile isSpeakerChar = t := by
  rw [List.dropWhile_append_of_pos letters]
  cases t with
  | nil => rfl
  | cons d t =>
      have apart : isSpeakerChar d = false := by
        cases blank : isBlank d with
        | true => exact isSpeakerChar_eq_false blank
        | false =>
            have same : d :: t = c :: rest := by simpa [trimStart, blank] using start
            rw [(List.cons.inj same).1]
            exact other
      simp [apart]

/-- What may follow the name of a speaker: nothing, or a bracket that ends with its first closing
one. -/
def Bracketed (t : Text) : Prop :=
  t = [] ∨ ∃ lead inside, (∀ c ∈ lead, isBlank c = true) ∧ ')' ∉ inside ∧
    t = lead ++ '(' :: inside ++ [')']

/-- A text that looks like a speaker is a name led by a capital, with a bracket behind it or none. -/
theorem exists_of_isSpeaker {t : Text} (speaker : isSpeaker t = true) :
    ∃ name behind, t = name ++ behind ∧ name.head?.any Char.isUpper = true ∧
      (∀ c ∈ name, isSpeakerChar c = true) ∧ Bracketed behind := by
  cases t with
  | nil => cases speaker
  | cons c rest =>
      rw [isSpeaker, Bool.and_eq_true] at speaker
      obtain ⟨upper, behind⟩ := speaker
      refine ⟨c :: rest.takeWhile isSpeakerChar, rest.dropWhile isSpeakerChar, ?_, upper, ?_, ?_⟩
      · rw [List.cons_append, List.takeWhile_append_dropWhile]
      · rintro d (_ | ⟨_, member⟩)
        · simp [isSpeakerChar, upper]
        · exact List.mem_takeWhile_imp member
      · split at behind
        · rename_i none_
          exact .inl none_
        · split at behind
          · rename_i inside bracket
            obtain ⟨lead, blank, split⟩ := exists_blanks (rest.dropWhile isSpeakerChar)
            have parts := List.takeWhile_append_dropWhile (p := (· != ')')) (l := inside)
            rw [beq_iff_eq.mp behind] at parts
            refine .inr ⟨lead, inside.takeWhile (· != ')'), blank, ?_, ?_⟩
            · intro member
              simpa using List.mem_takeWhile_imp member
            · rw [List.append_assoc, List.cons_append, parts, ← bracket]
              exact split
          · cases behind

theorem isSpeaker_append {name behind : Text} (capital : name.head?.any Char.isUpper = true)
    (letters : ∀ c ∈ name, isSpeakerChar c = true) (bracketed : Bracketed behind) :
    isSpeaker (name ++ behind) = true := by
  cases name with
  | nil => cases capital
  | cons c name =>
      have rest : ∀ d ∈ name, isSpeakerChar d = true := fun d member =>
        letters d (List.mem_cons_of_mem c member)
      rw [List.cons_append, isSpeaker, Bool.and_eq_true]
      refine ⟨by simpa using capital, ?_⟩
      rcases bracketed with rfl | ⟨lead, inside, blank, open_, rfl⟩
      · rw [List.dropWhile_append_of_pos rest]
        rfl
      · have ends : (inside ++ [')']).dropWhile (· != ')') = [')'] := by
          rw [List.dropWhile_append_of_pos (all_ne open_)]
          rfl
        have bracket : trimStart (lead ++ '(' :: inside ++ [')']) = '(' :: (inside ++ [')']) := by
          rw [List.append_assoc, trimStart_blanks blank]
          rfl
        rw [dropWhile_isSpeakerChar rest bracket (by decide)]
        split
        · rfl
        · rw [bracket]
          exact beq_iff_eq.mpr ends

/-! ## Asides -/

/-- An aside is a bracket, with what it holds, or there is none. -/
theorem mem_asides {t tail : Text} {aside : Option Text} (member : (aside, tail) ∈ asides t) :
    (aside = none ∧ t = tail) ∨
      ∃ inside, aside = nonEmpty? (trim inside) ∧ t = '(' :: inside ++ ')' :: tail := by
  unfold asides at member
  split at member
  · rename_i rest
    obtain ⟨⟨inside, after⟩, closing, read⟩ := List.mem_filterMap.mp member
    dsimp only at read
    split at read
    · cases read
    · obtain ⟨rfl, rfl⟩ := Prod.mk.inj (Option.some.inj read)
      exact .inr ⟨inside, rfl, by rw [mem_closings.mp closing, List.cons_append]⟩
  · obtain ⟨rfl, rfl⟩ := Prod.mk.inj (List.mem_singleton.mp member)
    exact .inl ⟨rfl, rfl⟩

/-- What stands between a speaker and the colon: blanks, and a bracket among them if there is a
qualifier. -/
inductive Between : Text → Option Text → Prop
  | blanks {blanks : Text} (blank : ∀ c ∈ blanks, isBlank c = true) : Between blanks none
  | bracket {lead trail : Text} (inside : Text) (leads : ∀ c ∈ lead, isBlank c = true)
      (trails : ∀ c ∈ trail, isBlank c = true) :
      Between (lead ++ '(' :: inside ++ ')' :: trail) (nonEmpty? (trim inside))

end Line

/-! ## The parts of speech -/

namespace Speech

variable {line : Text} {s : Speech}

/-- A line of speech: a name, perhaps a bracket, a colon, and something behind it. -/
theorem parts (speech : ofLine? line = some s) :
    s.speaker ≠ [] ∧ (∀ c ∈ s.speaker, Line.isSpeakerChar c = true) ∧
      ∃ between rest, Line.Between between s.qualifier ∧ trimStart rest ≠ [] ∧
        Line.afterDash line = s.speaker ++ between ++ ':' :: rest := by
  unfold ofLine? at speech
  dsimp only at speech
  split at speech
  · cases speech
  · rename_i speaker
    obtain ⟨⟨qualifier, tail⟩, aside, speech⟩ := List.exists_of_findSome?_eq_some speech
    dsimp only at speech
    split at speech
    · rename_i rest colon
      obtain ⟨⟨direction, behind⟩, second, speech⟩ := List.exists_of_findSome?_eq_some speech
      obtain ⟨⟨text, run⟩, body, rfl⟩ := Option.map_eq_some_iff.mp speech
      have letters : trimStart rest ≠ [] := by
        intro none_
        rw [none_] at second
        rcases Line.mem_asides second with ⟨-, rfl⟩ | ⟨inside, -, bracket⟩
        · cases body
        · cases bracket
      obtain ⟨lead, leads, start⟩ :=
        exists_blanks ((Line.afterDash line).dropWhile Line.isSpeakerChar)
      obtain ⟨trail, trails, behind⟩ := exists_blanks tail
      have whole := List.takeWhile_append_dropWhile (p := Line.isSpeakerChar)
        (l := Line.afterDash line)
      refine ⟨by simpa using speaker, fun c => List.mem_takeWhile_imp, ?_⟩
      rcases Line.mem_asides aside with ⟨rfl, bare⟩ | ⟨inside, rfl, bracket⟩
      · rw [bare, behind, colon] at start
        refine ⟨lead ++ trail, rest, .blanks ?_, letters, ?_⟩
        · simp only [List.mem_append]
          exact fun c member => member.elim (leads c) (trails c)
        · simp only [List.append_assoc] at start ⊢
          rw [← start, whole]
      · rw [bracket, behind, colon] at start
        refine ⟨lead ++ '(' :: inside ++ ')' :: trail, rest, .bracket inside leads trails, letters,
          ?_⟩
        simp only [List.append_assoc, List.cons_append] at start ⊢
        rw [← start, whole]
    · cases speech

/-- What is said starts with the name of the speaker. -/
theorem exists_afterDash_eq_cons (speech : ofLine? line = some s) :
    ∃ c tail, Line.afterDash line = c :: tail ∧ Line.isSpeakerChar c = true := by
  obtain ⟨some_, letters, between, rest, -, -, whole⟩ := parts speech
  obtain ⟨c, name, speaker⟩ := List.exists_cons_of_ne_nil some_
  rw [speaker] at whole letters
  exact ⟨c, _, whole, letters c List.mem_cons_self⟩

/-- A line of speech starts with a dash or with the name of the speaker. -/
theorem start (speech : ofLine? line = some s) :
    ∃ c rest, trimStart line = c :: rest ∧
      (c = '-' ∨ Line.isSpeakerChar c = true ∧ Line.afterDash line = trimStart line) := by
  obtain ⟨c, rest, whole, letter⟩ := exists_afterDash_eq_cons speech
  unfold Line.afterDash at whole ⊢
  split at whole
  · rename_i tail dash
    exact ⟨'-', tail, dash, .inl rfl⟩
  · exact ⟨c, rest, whole, .inr ⟨letter, rfl⟩⟩

end Speech

/-! ## Clauses -/

namespace Clause

theorem afterColon?_of_letter {t tail : Text} {c : Char} (start : trimStart t = c :: tail)
    (other : c ≠ ':') : afterColon? t = none := by
  unfold afterColon?
  split
  · rename_i rest colon
    rw [start] at colon
    exact absurd (List.cons.inj colon).1 other
  · rfl

theorem afterColon?_blanks {blanks tail : Text} (blank : ∀ c ∈ blanks, isBlank c = true)
    (whole : '\n' ∉ tail) : afterColon? (blanks ++ ':' :: tail) = some (trimStart tail) := by
  have colon : trimStart (blanks ++ ':' :: tail) = ':' :: tail := trimStart_blanks blank _
  have within : '\n' ∉ trimStart tail := not_mem_of_suffix whole (suffix_trimStart tail)
  have line : (trimStart tail).contains '\n' = false := by simpa using within
  simp only [afterColon?, colon, line, Bool.false_eq_true, if_false]

/-- A clause ends at the first colon, if no `#` stands before it. -/
theorem split?_append {head tail : Text} (first : ':' ∉ head) (letters : trimStart head ≠ [])
    (whole : '\n' ∉ tail) :
    split? (head ++ ':' :: tail) =
      if '#' ∈ head then none else some ⟨trimEnd head, trim tail⟩ := by
  induction head with
  | nil => exact absurd rfl letters
  | cons c more ih =>
      rw [List.cons_append, split?]
      by_cases mark : c = '#'
      · simp [mark]
      · rw [if_neg mark]
        have member : '#' ∈ c :: more ↔ '#' ∈ more := by simp [Ne.symm mark]
        by_cases blank : trimStart more = []
        · -- The condition is this one character.
          have blanks := (trimStart_eq_nil_iff more).mp blank
          have letter : isBlank c = false := by
            by_contra other
            refine letters ((trimStart_eq_nil_iff _).mpr ?_)
            exact List.forall_mem_cons.mpr ⟨eq_true_of_ne_false other, blanks⟩
          have condition : trimEnd (c :: more) = [c] := by
            have one : trimEnd [c] = [c] := by simp [trimEnd, letter]
            rw [← List.singleton_append, trimEnd_blanks blanks, one]
          have none_ : '#' ∉ more := fun member => by cases blanks _ member
          have rest : trim (trimStart tail) = trim tail := by
            rw [trim, trimStart, trimStart, List.dropWhile_idempotent]
            rfl
          rw [afterColon?_blanks blanks whole]
          simp [member, none_, condition, rest]
        · obtain ⟨d, text, start⟩ := List.exists_cons_of_ne_nil blank
          have other : d ≠ ':' := by
            rintro rfl
            refine first (List.mem_cons_of_mem c (trimStart_subset more ?_))
            rw [start]
            exact List.mem_cons_self
          have start' : trimStart (more ++ ':' :: tail) = d :: (text ++ ':' :: tail) := by
            rw [trimStart_append blank, start, List.cons_append]
          rw [afterColon?_of_letter start' other]
          dsimp only
          rw [ih (fun member => first (List.mem_cons_of_mem c member)) blank]
          simp only [member]
          split
          · rfl
          · rw [trimEnd_cons_of_letters blank, Option.map_some]

/-- Behind a dash a clause starts at the first character that is not blank, unless that is a colon.
-/
theorem ofLine?_dash {line rest tail : Text} {c : Char} (dash : trimStart line = '-' :: rest)
    (start : trimStart rest = c :: tail) (other : c ≠ ':') :
    ofLine? line = (split? (trimStart rest)).bind fun clause =>
      if Line.isSpeaker clause.condition then none else some clause := by
  have again : ∀ blank, split? (trimStart rest) = none →
      split? (blank :: trimStart rest) = none := by
    intro blank none_
    have letter : trimStart (trimStart rest) = c :: tail := by
      rw [trimStart, trimStart, List.dropWhile_idempotent]
      exact start
    rw [split?, afterColon?_of_letter letter other, none_]
    simp
  cases last : (rest.takeWhile isBlank).getLast? with
  | none =>
      have bare : trimStart rest = rest := by
        have parts := List.takeWhile_append_dropWhile (p := isBlank) (l := rest)
        rwa [List.getLast?_eq_none_iff.mp last, List.nil_append] at parts
      simp only [ofLine?, dash, last, bare]
      rfl
  | some blank =>
      simp only [ofLine?, dash, last]
      cases found : split? (trimStart rest) with
      | some clause => rfl
      | none =>
          rw [again blank found]
          rfl

theorem ofLine?_of_start {line tail : Text} {c : Char} (start : trimStart line = c :: tail)
    (dash : c ≠ '-') : ofLine? line = none := by
  unfold ofLine?
  rw [start]
  split
  · rename_i same
    exact absurd (List.cons.inj same).1 dash
  · rfl

end Clause

/-! ## Clauses and speech -/

section Speech

variable {line : Text} {s : Speech}

/-- The only clause that speech can have starts where the speech does. -/
theorem Clause.split?_of_speech (speech : Speech.ofLine? line = some s) {clause : Clause}
    (found : ofLine? line = some clause) :
    split? (Line.afterDash line) = some clause ∧ Line.isSpeaker clause.condition = false := by
  obtain ⟨c, tail, start, dash | ⟨speaker, -⟩⟩ := Speech.start speech
  · subst dash
    obtain ⟨d, more, letters, speaker⟩ := Speech.exists_afterDash_eq_cons speech
    have behind : Line.afterDash line = trimStart tail := by simp only [Line.afterDash, start]
    have other : d ≠ ':' := by
      rintro rfl
      cases speaker
    rw [behind] at letters ⊢
    rw [ofLine?_dash start letters other, Option.bind_eq_some_iff] at found
    obtain ⟨clause', split, veto⟩ := found
    rw [Option.ite_none_left_eq_some, Bool.not_eq_true, Option.some.injEq] at veto
    obtain ⟨speaker, rfl⟩ := veto
    exact ⟨split, speaker⟩
  · have dash : c ≠ '-' := by
      rintro rfl
      cases speaker
    rw [ofLine?_of_start start dash] at found
    cases found

theorem Line.suffix_afterDash (line : Text) : Line.afterDash line <:+ line := by
  have start := suffix_trimStart line
  unfold Line.afterDash
  split
  · rename_i rest dash
    rw [dash] at start
    exact (suffix_trimStart rest).trans ((List.suffix_cons '-' rest).trans start)
  · exact start

/-- Speech goes on behind its first colon. -/
theorem Clause.rest_of_speech (speech : Speech.ofLine? line = some s) (whole : '\n' ∉ line)
    {clause : Clause} (found : ofLine? line = some clause) : clause.rest ≠ [] := by
  obtain ⟨split, -⟩ := split?_of_speech speech found
  obtain ⟨c, more, name, speaker⟩ := Speech.exists_afterDash_eq_cons speech
  obtain ⟨-, -, between, rest, -, spoken, parts⟩ := Speech.parts speech
  have absent := not_mem_of_suffix whole (Line.suffix_afterDash line)
  have colon : ':' ∈ Line.afterDash line := by simp [parts]
  obtain ⟨head, tail, cut, first⟩ := List.eq_append_cons_of_mem colon
  rw [cut] at parts split absent name
  have start : trimStart head ≠ [] := by
    cases head with
    | nil =>
        rw [← (List.cons.inj name).1] at speaker
        cases speaker
    | cons d head =>
        have letter := Line.isBlank_of_isSpeakerChar speaker
        rw [← (List.cons.inj name).1] at letter
        simp [trimStart, letter]
  have spoken' : trimStart tail ≠ [] := fun none_ =>
    spoken ((trimStart_eq_nil_iff rest).mpr fun c member =>
      (trimStart_eq_nil_iff tail).mp none_ c (mem_of_first first parts member))
  have line_ : '\n' ∉ tail := fun member => absent (by simp [member])
  rw [split?_append first start line_] at split
  split at split
  · cases split
  · rw [← Option.some.inj split]
    refine trimEnd_ne_nil ?_
    rwa [trimStart, trimStart, List.dropWhile_idempotent]

/-- A speaker with a bracket looks like a speaker, if the bracket ends with its first closing one.
-/
theorem Line.Between.isSpeaker {name between : Text} {qualifier : Option Text}
    (shape : Line.Between between qualifier)
    (plain : ∀ q, qualifier = some q → ':' ∉ q ∧ ')' ∉ q)
    (capital : name.head?.any Char.isUpper = true)
    (letters : ∀ c ∈ name, Line.isSpeakerChar c = true) :
    ':' ∉ between ∧ Line.isSpeaker (trimEnd (name ++ between)) = true := by
  have whole : trimEnd name = name := by
    rw [trimEnd, List.reverse_eq_iff]
    cases last : name.reverse with
    | nil => rfl
    | cons c rest =>
        have member : c ∈ name := by
          rw [← List.mem_reverse, last]
          exact List.mem_cons_self
        simp [Line.isBlank_of_isSpeakerChar (letters c member)]
  cases shape with
  | blanks blank =>
      refine ⟨fun member => (by cases blank ':' member), ?_⟩
      have bare := Line.isSpeaker_append capital letters (.inl rfl)
      rw [List.append_nil] at bare
      rw [trimEnd_blanks blank, whole]
      exact bare
  | @bracket lead trail inside leads trails =>
      have kept : ∀ c, isBlank c = false → c ∈ inside → ∃ q,
          nonEmpty? (trim inside) = some q ∧ c ∈ q := by
        intro c letter member
        rw [← mem_trim letter] at member
        exact ⟨trim inside, by simp [nonEmpty?, List.ne_nil_of_mem member], member⟩
      have colon : ':' ∉ inside := fun member => by
        obtain ⟨q, qualifier, found⟩ := kept ':' (by decide) member
        exact (plain q qualifier).1 found
      have closing : ')' ∉ inside := fun member => by
        obtain ⟨q, qualifier, found⟩ := kept ')' (by decide) member
        exact (plain q qualifier).2 found
      constructor
      · simp only [List.mem_append, List.mem_cons, not_or]
        exact ⟨⟨fun member => (by cases leads ':' member), by decide, colon⟩, by decide,
          fun member => (by cases trails ':' member)⟩
      · have split : name ++ (lead ++ '(' :: inside ++ ')' :: trail) =
            (name ++ (lead ++ '(' :: inside ++ [')'])) ++ trail := by simp
        have ends : trimEnd (name ++ (lead ++ '(' :: inside ++ [')'])) =
            name ++ (lead ++ '(' :: inside ++ [')']) := by
          have letter := trimEnd_append_cons (c := ')') (by decide)
            (name ++ (lead ++ '(' :: inside)) []
          simpa [trimEnd] using letter
        rw [split, trimEnd_blanks trails, ends]
        exact Line.isSpeaker_append capital letters (.inr ⟨lead, inside, leads, closing, rfl⟩)

/-- **Speech behind a dash is no clause**, if a capital leads the speaker, and neither a colon nor a
closing bracket stands in the qualifier. -/
theorem Clause.ofLine?_speech (speech : Speech.ofLine? line = some s) (whole : '\n' ∉ line)
    (capital : s.speaker.head?.any Char.isUpper = true)
    (plain : ∀ q, s.qualifier = some q → ':' ∉ q ∧ ')' ∉ q) : ofLine? line = none := by
  by_contra some_
  obtain ⟨clause, found⟩ := Option.ne_none_iff_exists'.mp some_
  obtain ⟨split, other⟩ := split?_of_speech speech found
  obtain ⟨some_, letters, between, rest, shape, -, parts⟩ := Speech.parts speech
  obtain ⟨colon, speaker⟩ := shape.isSpeaker plain capital letters
  have absent := not_mem_of_suffix whole (Line.suffix_afterDash line)
  rw [parts] at split absent
  have first : ':' ∉ s.speaker ++ between := by
    rw [List.mem_append]
    rintro (member | member)
    · cases letters ':' member
    · exact colon member
  have start : trimStart (s.speaker ++ between) ≠ [] := by
    obtain ⟨c, more, name⟩ := List.exists_cons_of_ne_nil some_
    rw [name] at letters ⊢
    simp [trimStart, Line.isBlank_of_isSpeakerChar (letters c List.mem_cons_self)]
  rw [split?_append first start fun member => absent (by simp [member])] at split
  split at split
  · cases split
  · rw [← Option.some.inj split, speaker] at other
    cases other

/-! ## The kind of a line of speech -/

section Start

variable {c : Char} {rest : Text}

theorem Tag.line?_of_start (start : trimStart line = c :: rest) (letter : isBlank c = false)
    (mark : c ≠ '#') : Tag.line? line = none := by
  obtain ⟨tail, trimmed⟩ := trim_eq_cons start letter
  unfold Tag.line? Tag.groups?
  rw [trimmed]
  split
  · rename_i same
    exact absurd (List.cons.inj same).1 mark
  · rfl

theorem Line.header_of_start (start : trimStart line = c :: rest) (header : c ≠ '=') :
    knot? line = none ∧ stitch? line = none := by
  unfold knot? stitch?
  rw [start]
  constructor
  all_goals
    split
    · rename_i same
      exact absurd (List.cons.inj same).1 header
    · rfl

theorem Line.comment?_of_start (start : trimStart line = c :: rest) (slash : c ≠ '/') :
    comment? line = none := by
  rw [comment?, Option.map_eq_none_iff]
  cases found : after? "//".toList line with
  | none => rfl
  | some tail =>
      rw [eq_append_of_after? found] at start
      exact absurd (List.cons.inj start).1.symm slash

end Start

/-- **A line of speech is prose**, unless it is a statement. -/
theorem Kind.ofLine_speech (speech : Speech.ofLine? line = some s) (whole : '\n' ∉ line)
    (statement : Line.isStatement line = false) :
    Kind.ofLine line = .content (Turn.ofLine? line)
      (.prose (Prose.ofLine (Clause.ofLine? line).isSome line)) := by
  obtain ⟨c, rest, start, shape⟩ := Speech.start speech
  have letter : isBlank c = false ∧ c ≠ '#' ∧ c ≠ '=' ∧ c ≠ '/' := by
    rcases shape with rfl | ⟨speaker, -⟩
    · decide
    · refine ⟨Line.isBlank_of_isSpeakerChar speaker, ?_, ?_, ?_⟩
      all_goals
        rintro rfl
        cases speaker
  obtain ⟨blank, mark, header, slash⟩ := letter
  have some_ : line.isEmpty = false := by
    cases line with
    | nil => cases start
    | cons d more => rfl
  have tags := Tag.line?_of_start start blank mark
  have role : Role.ofLine line = .prose (Prose.ofLine (Clause.ofLine? line).isSome line) := by
    obtain ⟨knot, stitch⟩ := Line.header_of_start start header
    have remark := Line.comment?_of_start start slash
    unfold Role.ofLine
    cases found : Clause.ofLine? line with
    | none => rw [knot, stitch, remark]; rfl
    | some clause =>
        have rest := Clause.rest_of_speech speech whole found
        simp [rest]
  simp only [Kind.ofLine, some_, tags, statement, role, Bool.false_eq_true, if_false]

end Speech

end Beatsheet

/-
# Beatsheet.Proofs.Line.Written — lines as they are written

A line of speech that is written from its parts, with single spaces between them, is read back as
just these parts (`Speech.ofLine?_written`): whatever colons, brackets and hashes its text holds,
and colons, hashes and opening brackets its asides.

Each part is written with the space in front. So a part ends where the next one starts: an aside at
its closing bracket, for it holds no other (`asides_written`), and the text where the tags start,
for no end of it is a run of tags (`body?_written`).
-/
import Beatsheet.Proofs.Line.Capture
import Mathlib.Data.List.Infix

set_option autoImplicit false

namespace Beatsheet

open Text

/-! ## Tags -/

namespace Tag

/-- What the tags of a beat have to be like, if they are written on its line: words; and without an
identifier no tag may look like one. -/
structure Writable (id : Text) (tags : List Text) : Prop where
  name : ∀ c ∈ id, isBlank c = false
  words : ∀ tag ∈ tags, IsWord tag
  bare : id = [] → ∀ tag ∈ tags, id? tag = none

/-- The tokens of a beat, the identifier first. -/
def declaring (id : Text) (tags : List Text) : List Text :=
  if id = [] then tags else (idMark ++ id) :: tags

/-- Tags as they are written behind a text. -/
def written (tokens : List Text) : Text :=
  tokens.flatMap fun token => ' ' :: '#' :: token

theorem isBlank_of_mem_space : ∀ c ∈ [' '], isBlank c = true :=
  List.forall_mem_singleton.mpr rfl

variable {tokens_ : List Text}

theorem groups_written (words : ∀ token ∈ tokens_, IsWord token) : Groups (written tokens_) := by
  induction tokens_ with
  | nil => exact .nil
  | cons token rest ih =>
      have whole := words token List.mem_cons_self
      have behind := ih fun other member => words other (List.mem_cons_of_mem token member)
      exact @Groups.group [' '] token _ (List.cons_ne_nil _ _) isBlank_of_mem_space whole behind

theorem tokens_written (words : ∀ token ∈ tokens_, IsWord token) :
    tokens (written tokens_) = tokens_ := by
  induction tokens_ with
  | nil => rfl
  | cons token rest ih =>
      have whole := words token List.mem_cons_self
      have others := fun other member => words other (List.mem_cons_of_mem token member)
      have behind := (groups_written others).startsBlank
      have first := @tokens_group [' '] token _ isBlank_of_mem_space whole behind
      rw [ih others] at first
      exact first

theorem isGap_of_mem_written (words : ∀ token ∈ tokens_, IsWord token) {c : Char}
    (member : c ∈ written tokens_) (blank : isBlank c = true) : isGap c = true := by
  obtain ⟨token, found, within⟩ := List.mem_flatMap.mp member
  rcases List.mem_cons.mp within with rfl | within
  · rfl
  · rw [(isWord_marked (words token found)).2 c within] at blank
    cases blank

variable {id : Text} {tags : List Text}

theorem Writable.declaring (writable : Writable id tags) :
    ∀ token ∈ declaring id tags, IsWord token := by
  unfold Tag.declaring
  split
  · exact writable.words
  · rintro _ (_ | ⟨_, member⟩)
    · refine ⟨by simp [idMark], fun c member => ?_⟩
      rcases List.mem_append.mp member with mark | name
      · have letters : idMark.all (!isBlank ·) = true := by decide
        simpa using List.all_eq_true.mp letters c mark
      · exact writable.name c name
    · exact writable.words _ member

theorem takeId_of_none (bare : ∀ token ∈ tokens_, id? token = none) :
    takeId tokens_ = (none, tokens_) := by
  induction tokens_ with
  | nil => rfl
  | cons token rest ih =>
      have first := bare token List.mem_cons_self
      rw [takeId, first, ih fun other member => bare other (List.mem_cons_of_mem token member)]

/-- The tags that are written are read. -/
theorem read_written (writable : Writable id tags) :
    read (written (declaring id tags)) = (id, tags) := by
  have words := writable.declaring
  have gaps : ∀ c ∈ trimEnd (written (declaring id tags)), isBlank c = true → isGap c = true := by
    rw [(groups_written words).trimEnd_eq]
    exact fun c => isGap_of_mem_written words
  rw [read, ofRun_eq_tokens gaps, tokens_written words]
  by_cases none_ : id = []
  · rw [Tag.declaring, if_pos none_, takeId_of_none (writable.bare none_), none_]
    rfl
  · have found := id?_eq_some_iff.mpr ⟨none_, rfl⟩
    rw [Tag.declaring, if_neg none_, takeId, found]
    rfl

end Tag

namespace Line

/-! ## Texts -/

/-- What the text of a beat has to be like, if it is written on a line: it starts with a word
character, holds no line feed and does not end with a blank, nor with tags. -/
structure IsText (t : Text) : Prop where
  start : t.head?.any isWordChar = true
  whole : '\n' ∉ t
  trimmed : trimEnd t = t
  untagged : ∀ back, back <:+ t → back ≠ [] → ¬ Tag.Groups back

theorem IsText.exists_cons {t : Text} (isText : IsText t) :
    ∃ c rest, t = c :: rest ∧ isBlank c = false ∧ c ≠ '(' := by
  cases t with
  | nil => cases isText.start
  | cons c rest =>
      have letter : isWordChar c = true := by simpa using isText.start
      refine ⟨c, rest, rfl, isBlank_of_isWordChar letter, ?_⟩
      rintro rfl
      revert letter
      decide +kernel

/-- An end of a trimmed text is trimmed. -/
theorem trimEnd_of_suffix {t back : Text} (trimmed : trimEnd t = t) (behind : back <:+ t) :
    trimEnd back = back := by
  obtain ⟨front, rfl⟩ := behind
  rw [trimEnd_append] at trimmed
  split at trimmed
  · rename_i blank
    have short := (prefix_trimEnd front).length_le
    rw [trimmed, List.length_append] at short
    have none_ : back = [] := List.eq_nil_of_length_eq_zero (by omega)
    rw [none_, trimEnd]
    rfl
  · exact List.append_cancel_left trimmed

/-- A text and the tags behind it are told apart. -/
theorem body?_written {text run : Text} (isText : IsText text) (groups : Tag.Groups run) :
    body? (text ++ run) = some (text, run) := by
  obtain ⟨start, whole, trimmed, untagged⟩ := isText
  cases text with
  | nil => cases start
  | cons c rest =>
      have isRun_ : Tag.isRun run = true :=
        (Tag.isRun_iff run).mpr ⟨run, [], groups, nofun, (List.append_nil run).symm⟩
      have longest : ∀ back, back <:+ rest → back ≠ [] → Tag.isRun (back ++ run) = false := by
        intro back behind some_
        by_contra longer
        have within := behind.trans (List.suffix_cons c rest)
        have inner := Tag.isRun_of_append some_ groups.startsBlank (eq_true_of_ne_false longer)
        have ends := Tag.groups_trimEnd inner
        rw [trimEnd_of_suffix trimmed within] at ends
        exact untagged back within some_ ends
      have line : rest.contains '\n' = false := by
        simpa using fun member => whole (List.mem_cons_of_mem c member)
      rw [List.cons_append, body?, Tag.splitRun_append_run isRun_ longest, line]
      rw [if_pos (by simpa using start)]

/-! ## Asides -/

/-- What an aside has to be like, if it is written in brackets. -/
structure IsAside (t : Text) : Prop where
  some_ : t ≠ []
  trimmed : trim t = t
  closed : ')' ∉ t
  whole : '\n' ∉ t

/-- An aside as it is written, with the space in front. -/
def bracketed : Option Text → Text
  | none => []
  | some inside => ' ' :: '(' :: inside ++ [')']

/-- A bracket ends at the first closing one, before any other way to end it. -/
theorem exists_closings {inside : Text} (closed : ')' ∉ inside) (t : Text) :
    ∃ more, closings (inside ++ ')' :: t) = (inside, t) :: more := by
  induction inside with
  | nil => exact ⟨_, by rw [List.nil_append, closings]; rfl⟩
  | cons c inside ih =>
      have other : c ≠ ')' := fun same => closed (same ▸ List.mem_cons_self)
      obtain ⟨more, found⟩ := ih fun member => closed (List.mem_cons_of_mem c member)
      rw [List.cons_append, closings, found, List.map_cons, if_neg other]
      exact ⟨_, rfl⟩

/-- The first way to read an aside is as it was written, if what follows is no bracket. -/
theorem asides_written {aside : Option Text} (shape : ∀ inside ∈ aside, IsAside inside)
    {rest tail : Text} {c : Char} (start : trimStart rest = c :: tail) (other : c ≠ '(') :
    ∃ behind more, asides (trimStart (bracketed aside ++ rest)) = (aside, behind) :: more ∧
      trimStart behind = c :: tail := by
  cases aside with
  | none =>
      refine ⟨c :: tail, [], ?_, ?_⟩
      · rw [bracketed, List.nil_append, start]
        unfold asides
        split
        · rename_i bracket
          exact absurd (List.cons.inj bracket).1 other
        · rfl
      · rw [← start, trimStart, trimStart, List.dropWhile_idempotent]
  | some inside =>
      obtain ⟨some_, trimmed, closed, whole⟩ := shape inside rfl
      obtain ⟨more, found⟩ := exists_closings closed rest
      have bracket : trimStart (bracketed (some inside) ++ rest) =
          '(' :: (inside ++ ')' :: rest) := by
        rw [bracketed, List.append_assoc]
        rfl
      have line : inside.contains '\n' = false := by simpa using whole
      have first : nonEmpty? inside = some inside := by simp [nonEmpty?, some_]
      have read : ∃ more, asides (trimStart (bracketed (some inside) ++ rest)) =
          (some inside, rest) :: more := by
        rw [bracket, asides, found, List.filterMap_cons]
        simp only [trimmed, line, first, Bool.false_eq_true, if_false]
        exact ⟨_, rfl⟩
      obtain ⟨more, read⟩ := read
      exact ⟨rest, more, read, start⟩

/-- A name ends where the aside or the colon behind it starts. -/
theorem name_written {name : Text} (letters : ∀ c ∈ name, isSpeakerChar c = true)
    (aside : Option Text) (rest : Text) :
    (name ++ (bracketed aside ++ ':' :: rest)).takeWhile isSpeakerChar = name ∧
      (name ++ (bracketed aside ++ ':' :: rest)).dropWhile isSpeakerChar =
        bracketed aside ++ ':' :: rest := by
  have ends : (bracketed aside ++ ':' :: rest).takeWhile isSpeakerChar = [] ∧
      (bracketed aside ++ ':' :: rest).dropWhile isSpeakerChar = bracketed aside ++ ':' :: rest := by
    cases aside <;> exact ⟨rfl, rfl⟩
  rw [List.takeWhile_append_of_pos letters, List.dropWhile_append_of_pos letters, ends.1, ends.2,
    List.append_nil]
  exact ⟨rfl, rfl⟩

/-! ## Dashes -/

/-- A line with a dash in front, or without. -/
def led (dashed : Bool) (t : Text) : Text :=
  if dashed then '-' :: ' ' :: t else t

theorem afterDash_led {t tail : Text} {c : Char} (start : t = c :: tail)
    (letter : isBlank c = false) (other : c ≠ '-') (dashed : Bool) :
    afterDash (led dashed t) = t := by
  have trimmed : trimStart t = t := by simp [start, trimStart, letter]
  cases dashed with
  | true =>
      have dash : trimStart (led true t) = '-' :: ' ' :: t := rfl
      have behind : trimStart (' ' :: t) = trimStart t := rfl
      simp only [afterDash, dash, behind, trimmed]
  | false =>
      have bare : led false t = t := rfl
      unfold afterDash
      rw [bare, trimmed]
      split
      · rename_i rest
        exact absurd (List.cons.inj start).1.symm other
      · rfl

end Line

/-! ## Speech -/

namespace Speech

/-- What the parts of speech have to be like, if they are written on a line. -/
structure Writable (s : Speech) : Prop where
  named : s.speaker ≠ []
  speaker : ∀ c ∈ s.speaker, Line.isSpeakerChar c = true
  qualifier : ∀ inside ∈ s.qualifier, Line.IsAside inside
  direction : ∀ inside ∈ s.direction, Line.IsAside inside
  text : Line.IsText s.text
  tags : Tag.Writable s.id s.tags

/-- Speech as it is written: `SPEAKER (qualifier): (direction) text #id:name #tag`, with a dash in
front or without, and parts that are not there left out. -/
def written (dashed : Bool) (s : Speech) : Text :=
  Line.led dashed (s.speaker ++ (Line.bracketed s.qualifier ++ ':' ::
    (Line.bracketed s.direction ++ ' ' :: (s.text ++ Tag.written (Tag.declaring s.id s.tags)))))

variable {s : Speech}

theorem afterDash_written (writable : s.Writable) (dashed : Bool) :
    Line.afterDash (s.written dashed) = s.written false := by
  obtain ⟨c, more, name⟩ := List.exists_cons_of_ne_nil writable.named
  have letter := writable.speaker c (by rw [name]; exact List.mem_cons_self)
  refine Line.afterDash_led (c := c) (by rw [name]; rfl) (Line.isBlank_of_isSpeakerChar letter) ?_ _
  rintro rfl
  cases letter

theorem capture?_written (writable : s.Writable) (dashed : Bool) :
    capture? (s.written dashed) =
      some ⟨s.speaker, s.qualifier, s.direction, s.text,
        Tag.written (Tag.declaring s.id s.tags)⟩ := by
  have start : Line.afterDash (s.written dashed) = s.speaker ++ (Line.bracketed s.qualifier ++
      ':' :: (Line.bracketed s.direction ++ ' ' :: (s.text ++
        Tag.written (Tag.declaring s.id s.tags)))) :=
    afterDash_written writable dashed
  obtain ⟨named, speaker, qualifier, direction, text, tags⟩ := writable
  have groups := Tag.groups_written tags.declaring
  unfold capture?
  rw [start]
  generalize Tag.written (Tag.declaring s.id s.tags) = run at groups ⊢
  obtain ⟨d, said, spoken, letter, bracket⟩ := text.exists_cons
  -- What stands behind the direction, and behind the qualifier, blanks apart.
  have behindDirection : trimStart (' ' :: (s.text ++ run)) = d :: (said ++ run) := by
    rw [spoken]
    simp [trimStart, letter, show isBlank ' ' = true from rfl]
  obtain ⟨body, directions, directed, behindDirection⟩ :=
    Line.asides_written direction behindDirection bracket
  have behindQualifier (rest : Text) : trimStart (':' :: rest) = ':' :: rest := rfl
  obtain ⟨colon, qualifiers, qualified, behindQualifier⟩ :=
    Line.asides_written qualifier
      (behindQualifier (Line.bracketed s.direction ++ ' ' :: (s.text ++ run))) (by decide)
  have read : Line.body? (trimStart body) = some (s.text, run) := by
    rw [behindDirection, ← List.cons_append, ← spoken]
    exact Line.body?_written text groups
  have name := Line.name_written speaker s.qualifier
    (Line.bracketed s.direction ++ ' ' :: (s.text ++ run))
  dsimp only
  rw [name.1, name.2, if_neg (by simpa using named), qualified, List.findSome?_cons]
  simp only [behindQualifier]
  rw [directed, List.findSome?_cons, read]
  rfl

/-- **A line of speech that is written from its parts is read back as these parts.** -/
theorem ofLine?_written (writable : s.Writable) (dashed : Bool) :
    ofLine? (s.written dashed) = some s := by
  rw [ofLine?_eq, capture?_written writable, Option.map_some, Tag.read_written writable.tags]

/-- Brackets, colons and hashes wherever they may stand, and a second identifier among the tags. -/
theorem ofLine?_written_of_brackets :
    let s : Speech :=
      ⟨"FRED_2".toList, some "to: (all #1".toList, some "low (very: #x".toList,
        "C# (see: #2) or #3 so:".toList, "n:1".toList, ["a#b".toList, "id:m".toList, ")".toList]⟩
    s.Writable ∧ ofLine? (s.written true) = some s := by
  intro s
  have tails : s.text.tails.all (fun back => back.isEmpty || !Tag.isRun back) = true := by
    decide +kernel
  have untagged : ∀ back, back <:+ s.text → back ≠ [] → ¬ Tag.Groups back := by
    intro back behind some_ groups
    have isRun_ : Tag.isRun back = true :=
      (Tag.isRun_iff back).mpr ⟨back, [], groups, nofun, (List.append_nil back).symm⟩
    have not_ := List.all_eq_true.mp tails back ((List.mem_tails back s.text).mpr behind)
    simp [some_, isRun_] at not_
  have aside : ∀ inside, inside ∈ s.qualifier ∨ inside ∈ s.direction → Line.IsAside inside := by
    rintro _ (⟨⟨⟩⟩ | ⟨⟨⟩⟩)
    · exact ⟨by decide, by decide, by decide, by decide⟩
    · exact ⟨by decide, by decide, by decide, by decide⟩
  have words : s.tags.all (fun tag => !tag.isEmpty && tag.all (!isBlank ·)) = true := by
    decide
  have word : ∀ tag ∈ s.tags, IsWord tag := by
    intro tag member
    simpa [IsWord] using List.all_eq_true.mp words tag member
  have name : s.id.all (!isBlank ·) = true := by decide
  have writable : s.Writable := {
    named := by decide
    speaker := List.all_eq_true.mp (by decide)
    qualifier := fun inside member => aside inside (.inl member)
    direction := fun inside member => aside inside (.inr member)
    text := ⟨by decide +kernel, by decide, by decide, untagged⟩
    tags := ⟨fun c member => by simpa using List.all_eq_true.mp name c member, word, nofun⟩ }
  exact ⟨writable, ofLine?_written writable true⟩

end Speech

end Beatsheet

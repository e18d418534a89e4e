/-
# Beatsheet.Proofs.Tag.Run — runs of tags

A run of tags is made of groups, each of them some blanks, `#` and a word (`Groups`), with blanks
behind the last (`isRun_iff`). So its words are its tokens, each with the `#` in front
(`tokens_group`).

What a beat is told by its run is told by the tokens (`Declares`), where only spaces, tabs and line
breaks part them. Any other blank between them, and the run is read as if it were empty
(`declares_read_iff`).
-/
import Beatsheet.Proofs.Text.Words
import Beatsheet.Tag.Basic

set_option autoImplicit false

namespace Beatsheet.Tag

open Text

/-! ## Groups -/

/-- Tags with a blank or more before each of them, and nothing behind the last. -/
inductive Groups : Text → Prop
  | nil : Groups []
  | group {blanks token rest : Text} (parted : blanks ≠ [])
      (blank : ∀ c ∈ blanks, isBlank c = true) (word : IsWord token) (behind : Groups rest) :
      Groups (blanks ++ '#' :: token ++ rest)

/-- The tokens of a run: its words, without the `#` that each begins with. -/
def tokens (run : Text) : List Text :=
  (words run).map (·.drop 1)

variable {run : Text}

theorem isWord_marked {token : Text} (word : IsWord token) : IsWord ('#' :: token) := by
  refine ⟨List.cons_ne_nil _ _, ?_⟩
  rintro c (_ | ⟨_, member⟩)
  · decide
  · exact word.2 c member

theorem isMarked_marked {token : Text} (word : IsWord token) : isMarked ('#' :: token) = true := by
  obtain ⟨c, rest, rfl⟩ := List.exists_cons_of_ne_nil word.1
  rfl

theorem exists_of_isMarked {word : Text} (whole : IsWord word) (marked : isMarked word = true) :
    ∃ token, IsWord token ∧ word = '#' :: token := by
  unfold isMarked at marked
  split at marked
  · rename_i c rest
    refine ⟨c :: rest, ⟨List.cons_ne_nil _ _, fun d member => ?_⟩, rfl⟩
    exact whole.2 d (List.mem_cons_of_mem '#' member)
  · cases marked

theorem Groups.startsBlank (groups : Groups run) : StartsBlank run := by
  intro c head
  cases groups with
  | nil => cases head
  | @group blanks token rest parted blank word behind =>
      obtain ⟨d, more, rfl⟩ := List.exists_cons_of_ne_nil parted
      obtain rfl := Option.some.inj head
      exact blank d List.mem_cons_self

/-- A group of a run is one of its words. -/
theorem words_group {blanks token rest : Text} (blank : ∀ c ∈ blanks, isBlank c = true)
    (word : IsWord token) (ends : StartsBlank rest) :
    words (blanks ++ '#' :: token ++ rest) = ('#' :: token) :: words rest := by
  rw [List.append_assoc, words_blanks_append blank,
    words_word_append (isWord_marked word) ends]

theorem tokens_group {blanks token rest : Text} (blank : ∀ c ∈ blanks, isBlank c = true)
    (word : IsWord token) (ends : StartsBlank rest) :
    tokens (blanks ++ '#' :: token ++ rest) = token :: tokens rest := by
  rw [tokens, words_group blank word ends]
  rfl

theorem Groups.isMarked (groups : Groups run) : ∀ word ∈ words run, isMarked word = true := by
  induction groups with
  | nil => exact nofun
  | @group blanks token rest parted blank word behind ih =>
      rw [words_group blank word behind.startsBlank]
      rintro _ (_ | ⟨_, member⟩)
      · exact isMarked_marked word
      · exact ih _ member

theorem isWord_of_mem_tokens (groups : Groups run) {token : Text} (member : token ∈ tokens run) :
    IsWord token := by
  obtain ⟨word, found, rfl⟩ := List.mem_map.mp member
  obtain ⟨token, whole, rfl⟩ :=
    exists_of_isMarked (isWord_of_mem_words found) (groups.isMarked word found)
  exact whole

/-- Nothing at the end of groups is trimmed, nor at the end of what ends with groups. -/
theorem trimEnd_group {token rest : Text} (word : IsWord token) (ends : trimEnd rest = rest)
    (front : Text) : trimEnd (front ++ '#' :: token ++ rest) = front ++ '#' :: token ++ rest := by
  rw [trimEnd_append, ends]
  split
  · rename_i empty
    rw [empty, List.append_nil]
    exact (isWord_marked word).trimEnd_append front
  · rfl

theorem Groups.trimEnd_eq (groups : Groups run) : trimEnd run = run := by
  induction groups with
  | nil => rfl
  | group parted blank word behind ih => exact trimEnd_group word ih _

theorem isRun_iff_words (t : Text) :
    isRun t = true ↔ StartsBlank t ∧ ∀ word ∈ words t, Tag.isMarked word = true := by
  cases t with
  | nil => simp [isRun, StartsBlank, words, splitWhere]
  | cons c rest => simp [isRun, StartsBlank]

theorem exists_groups {t : Text} (starts : StartsBlank t)
    (marked : ∀ word ∈ words t, isMarked word = true) :
    ∃ groups blanks, Groups groups ∧ (∀ c ∈ blanks, isBlank c = true) ∧ t = groups ++ blanks := by
  -- What is left behind the first word is shorter, and starts with a blank again.
  induction size : t.length using Nat.strong_induction_on generalizing t with
  | _ n ih =>
      obtain ⟨lead, leads, split⟩ := exists_blanks t
      cases start : trimStart t with
      | nil => exact ⟨[], t, .nil, (trimStart_eq_nil_iff t).mp start, rfl⟩
      | cons c rest =>
          have letter : isBlank c = false := not_of_dropWhile start
          obtain ⟨word, behind, whole, ends, rfl⟩ := exists_word letter rest
          have parts : t = lead ++ (c :: word ++ behind) := by
            rw [split, start]
            rfl
          have parted : lead ≠ [] := by
            rintro rfl
            rw [starts c (by rw [parts]; rfl)] at letter
            cases letter
          have all : words t = (c :: word) :: words behind := by
            rw [parts, words_blanks_append leads, words_word_append whole ends]
          rw [all] at marked
          obtain ⟨token, token_, same⟩ := exists_of_isMarked whole (marked _ List.mem_cons_self)
          have shorter : behind.length < n := by
            rw [← size, parts, List.length_append, List.length_append, List.length_cons]
            omega
          obtain ⟨groups, blanks, inner, blank, rfl⟩ := ih _ shorter ends
            (fun other member => marked other (List.mem_cons_of_mem _ member)) rfl
          refine ⟨lead ++ '#' :: token ++ groups, blanks, .group parted leads token_ inner, blank, ?_⟩
          rw [parts, same]
          simp only [List.append_assoc]

/-- A run is made of groups, with blanks behind the last. -/
theorem isRun_iff (t : Text) :
    isRun t = true ↔
      ∃ groups blanks, Groups groups ∧ (∀ c ∈ blanks, isBlank c = true) ∧ t = groups ++ blanks := by
  constructor
  · intro isRun_
    obtain ⟨starts, marked⟩ := (isRun_iff_words t).mp isRun_
    exact exists_groups starts marked
  · rintro ⟨groups, blanks, inner, blank, rfl⟩
    rw [isRun_iff_words, words_append_blanks blank]
    refine ⟨fun c head => ?_, inner.isMarked⟩
    cases groups with
    | nil => exact blank c (List.mem_of_mem_head? head)
    | cons d rest => exact inner.startsBlank c head

theorem groups_trimEnd (isRun_ : isRun run = true) : Groups (trimEnd run) := by
  obtain ⟨groups, blanks, inner, blank, rfl⟩ := (isRun_iff run).mp isRun_
  rwa [trimEnd_blanks blank, inner.trimEnd_eq]

/-- What stands before a run is a run itself if both together are one. -/
theorem isRun_of_append {t : Text} (some_ : t ≠ []) (ends : StartsBlank run)
    (whole : isRun (t ++ run) = true) : isRun t = true := by
  rw [isRun_iff_words] at whole ⊢
  obtain ⟨c, rest, rfl⟩ := List.exists_cons_of_ne_nil some_
  refine ⟨whole.1, fun word member => whole.2 word ?_⟩
  cases run with
  | nil => rwa [List.append_nil]
  | cons d more =>
      rw [words_append_blank (ends d rfl)]
      exact List.mem_append_left _ member

/-- A text is cut before the run behind it, if no end of it makes the run longer. -/
theorem splitRun_append_run {t : Text} (isRun_ : isRun run = true)
    (longest : ∀ back, back <:+ t → back ≠ [] → isRun (back ++ run) = false) :
    splitRun (t ++ run) = (t, run) := by
  induction t with
  | nil =>
      cases run with
      | nil => rfl
      | cons c rest => rw [List.nil_append, splitRun, if_pos isRun_]
  | cons c rest ih =>
      have here := longest (c :: rest) List.suffix_rfl (List.cons_ne_nil _ _)
      rw [List.cons_append] at here
      rw [List.cons_append, splitRun, if_neg (by simp [here]),
        ih fun back behind => longest back (behind.trans (List.suffix_cons c rest))]

/-! ## Identifiers -/

theorem id?_eq_some_iff {token name : Text} :
    id? token = some name ↔ name ≠ [] ∧ token = idMark ++ name := by
  rw [id?, Option.bind_eq_some_iff]
  constructor
  · rintro ⟨rest, found, some_⟩
    rw [nonEmpty?, Option.ite_none_left_eq_some, List.isEmpty_iff, Option.some.injEq] at some_
    obtain ⟨some_, rfl⟩ := some_
    exact ⟨some_, eq_append_of_after? found⟩
  · rintro ⟨some_, rfl⟩
    exact ⟨name, after?_append idMark name, by simp [nonEmpty?, some_]⟩

/-- What a list of tokens declares: the first identifier in it, or none, and all its other tokens.
-/
inductive Declares : List Text → Text → List Text → Prop
  | none {tokens : List Text} (none_ : ∀ token ∈ tokens, id? token = Option.none) :
      Declares tokens [] tokens
  | some {before after : List Text} {name : Text} (letters : name ≠ [])
      (first : ∀ token ∈ before, id? token = Option.none) :
      Declares (before ++ (idMark ++ name) :: after) name (before ++ after)

theorem declares_takeId (tokens : List Text) :
    Declares tokens ((takeId tokens).1.getD []) (takeId tokens).2 := by
  induction tokens with
  | nil => exact .none nofun
  | cons token rest ih =>
      cases found : id? token with
      | some name =>
          obtain ⟨letters, rfl⟩ := id?_eq_some_iff.mp found
          simp only [takeId, found]
          exact @Declares.some [] rest name letters nofun
      | none =>
          simp only [takeId, found]
          generalize (takeId rest).1.getD [] = name, (takeId rest).2 = others at ih
          cases ih with
          | none none_ => exact .none (List.forall_mem_cons.mpr ⟨found, none_⟩)
          | @some before after name letters first =>
              exact @Declares.some (token :: before) after name letters
                (List.forall_mem_cons.mpr ⟨found, first⟩)

/-- Who gets neither an identifier nor tags was told nothing. -/
theorem Declares.eq_nil {tokens : List Text} (declares : Declares tokens [] []) : tokens = [] := by
  generalize empty : ([] : Text) = name, none_ : ([] : List Text) = others at declares
  cases declares with
  | none => exact none_.symm ▸ rfl
  | some letters => exact absurd empty.symm letters

/-! ## Reading a run -/

/-- The identifier and the tags that a beat has from its run. -/
def read (run : Text) : Text × List Text :=
  ((takeId (ofRun run)).1.getD [], (takeId (ofRun run)).2)

theorem all_gaps_iff (t : Text) :
    t.all (fun c => !isBlank c || isGap c) = true ↔
      ∀ c ∈ t, isBlank c = true → isGap c = true := by
  simp [List.all_eq_true, imp_iff_not_or]

theorem ofRun_eq_tokens (gaps : ∀ c ∈ trimEnd run, isBlank c = true → isGap c = true) :
    ofRun run = tokens run := by
  rw [ofRun, if_pos ((all_gaps_iff _).mpr gaps), tokens]

theorem ofRun_eq_nil (other : ¬ ∀ c ∈ trimEnd run, isBlank c = true → isGap c = true) :
    ofRun run = [] := by
  rw [ofRun, if_neg (mt (all_gaps_iff _).mp other)]

/-- **A run tells what its tokens declare just if nothing but gaps part them.** -/
theorem declares_read_iff (isRun_ : isRun run = true) :
    Declares (tokens run) (read run).1 (read run).2 ↔
      ∀ c ∈ trimEnd run, isBlank c = true → isGap c = true := by
  constructor
  · intro declares
    by_contra other
    rw [read, ofRun_eq_nil other] at declares
    have none_ : words run = [] := List.map_eq_nil_iff.mp declares.eq_nil
    have groups := groups_trimEnd isRun_
    rw [← words_trimEnd] at none_
    generalize trimEnd run = trimmed at groups none_ other
    cases groups with
    | nil => exact other nofun
    | group parted blank word behind =>
        rw [words_group blank word behind.startsBlank] at none_
        cases none_
  · intro gaps
    rw [read, ofRun_eq_tokens gaps]
    exact declares_takeId (tokens run)

/-- Otherwise all of it is lost. -/
theorem read_eq_nil (other : ¬ ∀ c ∈ trimEnd run, isBlank c = true → isGap c = true) :
    read run = ([], []) := by
  rw [read, ofRun_eq_nil other]
  rfl

end Beatsheet.Tag

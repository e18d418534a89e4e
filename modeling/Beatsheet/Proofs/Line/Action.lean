/-
# Beatsheet.Proofs.Line.Action — lines of action

A line of action is a text with tags behind it, and perhaps a dash in front. It is recognised by a
pattern (`Action.pattern`): the dash with blanks around it, a word character and as few characters
as possible behind that, then tags up to the end of the line. Nothing but a word character can begin
the text, so what stands in front of it is taken off in one way only (`afterDash_front`); and the
line can end from a place just if a run of tags stands there (`mem_ways_ending`), so that the
shortest text is what stands in front of the longest run (`head?_content`).

So an action that is written from its parts is read back as these parts, and a line whose last word
is no tag is no action (`Action.reads_written`).
-/
import Beatsheet.Proofs.Line.Choice
import Beatsheet.Proofs.Line.Written
import Beatsheet.Proofs.Text.Language

set_option autoImplicit false

namespace Beatsheet

open Text

namespace Tag

/-- No run at the end of a text is longer than the one that is cut off. -/
theorem suffix_splitRun {t back : Text} (isRun_ : isRun back = true) (behind : back <:+ t) :
    back <:+ (splitRun t).2 := by
  induction t with
  | nil => exact behind
  | cons c rest ih =>
      rw [splitRun]
      split
      · exact behind
      · rename_i longer
        rcases List.suffix_cons_iff.mp behind with rfl | within
        · exact absurd isRun_ longer
        · exact ih within

theorem Groups.eq_nil {groups : Text} (inner : Groups groups) (none_ : words groups = []) :
    groups = [] := by
  cases inner with
  | nil => rfl
  | group parted blank word behind =>
      rw [words_group blank word behind.startsBlank] at none_
      cases none_

theorem read_trimEnd (run : Text) : read (trimEnd run) = read run := by
  rw [read, read, ofRun, ofRun, trimEnd_trimEnd, words_trimEnd]

end Tag

namespace Pattern

variable {κ : Type}

/-- If one place only is left from which something goes on, what comes first comes from there. -/
theorem head?_chain_of_only {first next : Text → List (Way κ)} {t rest : Text}
    (there : ([], rest) ∈ first t) (only : ∀ way ∈ first t, way = ([], rest) ∨ next way.2 = []) :
    (chain first next t).head? = (next rest).head? := by
  by_cases stuck : next rest = []
  · have all : ∀ way ∈ first t, next way.2 = [] := by
      intro way member
      rcases only way member with rfl | none_
      · exact stuck
      · exact none_
    rw [chain_eq_nil all, stuck]
  · obtain ⟨found, more, goesOn⟩ := List.exists_cons_of_ne_nil stuck
    rw [chain, goesOn]
    generalize first t = ways at there only
    induction ways with
    | nil => cases there
    | cons way ways ih =>
        obtain ⟨here, others⟩ := List.forall_mem_cons.mp only
        rw [List.flatMap_cons]
        rcases here with rfl | none_
        · rw [goesOn]
          rfl
        · rw [none_, List.map_nil, List.nil_append]
          rcases List.mem_cons.mp there with rfl | later
          · exact absurd none_ stuck
          · exact ih later others

end Pattern

namespace Action

open Pattern

/-! ## The pattern -/

inductive Group where
  | text
  | tags
  deriving DecidableEq

/-- The dash that may stand in front. -/
def front : Pattern Group :=
  seq blanks <| seq (opt (one (· == '-'))) blanks

def body : Pattern Group :=
  group .text (seq (one isWordChar) (few (one (· != '\n'))))

def tag : Pattern Group :=
  seq (one isBlank) <| seq blanks <| seq (one (· == '#')) <|
    seq (one (!isBlank ·)) (many (one (!isBlank ·)))

/-- One tag at least. -/
def ending : Pattern Group :=
  seq (group .tags (seq tag (many tag))) <| seq blanks stop

def pattern : Pattern Group :=
  seq front <| seq body ending

/-- The action that the pattern finds on a line. -/
def matched? (line : Text) : Option Action := do
  let groups ← pattern.first? line
  let text ← groups.lookup .text
  let run ← groups.lookup .tags
  some ⟨trim text, (Tag.read run).1, (Tag.read run).2⟩

/-! ## What ends a line -/

theorem mem_tag_iff {w : Text} :
    w ∈ tag.language ↔ ∃ blanks token, blanks ≠ [] ∧ (∀ c ∈ blanks, isBlank c = true) ∧
      IsWord token ∧ w = blanks ++ '#' :: token := by
  constructor
  · intro member
    obtain ⟨b, _, blank, behind, rfl⟩ := mem_language_seq_one.mp member
    obtain ⟨blanks, more, _, marked, rfl⟩ := Language.mem_mul.mp behind
    obtain ⟨c, _, mark, word, rfl⟩ := mem_language_seq_one.mp marked
    obtain ⟨d, token, letter, letters, rfl⟩ := mem_language_seq_one.mp word
    obtain rfl := beq_iff_eq.mp mark
    refine ⟨b :: blanks, d :: token, List.cons_ne_nil _ _,
      List.forall_mem_cons.mpr ⟨blank, mem_language_many_one.mp more⟩,
      ⟨List.cons_ne_nil _ _, List.forall_mem_cons.mpr ?_⟩, rfl⟩
    exact ⟨by simpa using letter, by simpa using mem_language_many_one.mp letters⟩
  · rintro ⟨blanks, token, some_, blank, ⟨word, letters⟩, rfl⟩
    obtain ⟨b, blanks, rfl⟩ := List.exists_cons_of_ne_nil some_
    obtain ⟨d, token, rfl⟩ := List.exists_cons_of_ne_nil word
    obtain ⟨first, more⟩ := List.forall_mem_cons.mp blank
    obtain ⟨letter, letters⟩ := List.forall_mem_cons.mp letters
    refine mem_language_seq_one.mpr ⟨b, _, first, ?_, rfl⟩
    refine Language.mem_mul.mpr ⟨blanks, mem_language_many_one.mpr more, _, ?_, rfl⟩
    refine mem_language_seq_one.mpr ⟨'#', _, rfl, ?_, rfl⟩
    refine mem_language_seq_one.mpr ⟨d, token, by simpa using letter, ?_, rfl⟩
    exact mem_language_many_one.mpr (by simpa using letters)

theorem mem_tags_iff {w : Text} : w ∈ (many tag).language ↔ Tag.Groups w := by
  constructor
  · intro member
    obtain ⟨parts, rfl, all⟩ := Language.mem_kstar.mp member
    induction parts with
    | nil => exact .nil
    | cons part parts ih =>
        obtain ⟨here, others⟩ := List.forall_mem_cons.mp all
        obtain ⟨blanks, token, parted, blank, word, rfl⟩ := mem_tag_iff.mp here
        exact .group parted blank word (ih others (Language.join_mem_kstar others))
  · intro groups
    induction groups with
    | nil => exact Language.nil_mem_kstar _
    | @group blanks token rest parted blank word behind ih =>
        have here := mem_tag_iff.mpr ⟨blanks, token, parted, blank, word, rfl⟩
        exact mem_kstar_iff.mpr (.inr ⟨_, here, by simp, rest, ih, rfl⟩)

theorem mem_someTags_iff {w : Text} :
    w ∈ (seq tag (many tag)).language ↔ Tag.Groups w ∧ w ≠ [] := by
  constructor
  · intro member
    obtain ⟨_, here, rest, behind, rfl⟩ := Language.mem_mul.mp member
    obtain ⟨blanks, token, parted, blank, word, rfl⟩ := mem_tag_iff.mp here
    exact ⟨.group parted blank word (mem_tags_iff.mp behind), by simp⟩
  · rintro ⟨groups, some_⟩
    cases groups with
    | nil => exact absurd rfl some_
    | @group blanks token rest parted blank word behind =>
        have here := mem_tag_iff.mpr ⟨blanks, token, parted, blank, word, rfl⟩
        exact Language.mem_mul.mpr ⟨_, here, rest, mem_tags_iff.mpr behind, rfl⟩

/-- A line ends in one way only: with a run of tags that is not empty. -/
theorem mem_ways_ending {g : List (Group × Text)} {t r : Text} :
    (g, r) ∈ ending.ways t ↔
      r = [] ∧ (Tag.isRun t = true ∧ words t ≠ []) ∧ g = [(.tags, trimEnd t)] := by
  have tagPlain : tag.Plain := ⟨trivial, trivial, trivial, trivial, trivial⟩
  rw [ending, mem_ways_seq]
  simp only [mem_ways_group (a := seq tag (many tag)) ⟨tagPlain, tagPlain⟩, mem_someTags_iff,
    mem_ways_seq, mem_ways_stop, blanks, mem_ways_iff (a := many (one isBlank)) trivial,
    mem_language_many_one]
  constructor
  · rintro ⟨_, _, _, ⟨groups, ⟨inner, some_⟩, rfl, rfl⟩, ⟨_, _, _, ⟨rfl, _, blank, rfl⟩,
      ⟨rfl, rfl, rfl⟩, rfl⟩, rfl⟩
    have isRun_ := (Tag.isRun_iff _).mpr ⟨groups, _, inner, blank, rfl⟩
    have trimmed := inner.trimEnd_eq
    rw [List.append_nil, trimEnd_blanks blank, trimmed]
    refine ⟨rfl, ⟨isRun_, fun none_ => some_ ?_⟩, rfl⟩
    rw [words_append_blanks blank] at none_
    exact inner.eq_nil none_
  · rintro ⟨rfl, ⟨isRun_, some_⟩, rfl⟩
    obtain ⟨groups, blanks, inner, blank, rfl⟩ := (Tag.isRun_iff t).mp isRun_
    rw [trimEnd_blanks blank, inner.trimEnd_eq]
    rw [words_append_blanks blank] at some_
    have nonempty : groups ≠ [] := fun none_ => some_ (by rw [none_]; rfl)
    exact ⟨_, [], blanks, ⟨groups, ⟨inner, nonempty⟩, rfl, rfl⟩,
      ⟨[], [], [], ⟨rfl, blanks, blank, (List.append_nil _).symm⟩, ⟨rfl, rfl, rfl⟩, rfl⟩, rfl⟩

/-! ## What stands in front -/

/-- Blanks, and a dash with more blanks or nothing. -/
theorem mem_front_iff {w : Text} :
    w ∈ front.language ↔ ∃ lead dash trail, (∀ c ∈ lead, isBlank c = true) ∧
      (dash = ['-'] ∨ dash = []) ∧ (∀ c ∈ trail, isBlank c = true) ∧
        w = lead ++ (dash ++ trail) := by
  constructor
  · intro member
    obtain ⟨lead, leads, _, behind, rfl⟩ := Language.mem_mul.mp member
    obtain ⟨dash, dashed, trail, trails, rfl⟩ := Language.mem_mul.mp behind
    refine ⟨lead, dash, trail, mem_language_many_one.mp leads, ?_,
      mem_language_many_one.mp trails, rfl⟩
    rcases dashed with ⟨c, mark, rfl⟩ | none_
    · exact .inl (by rw [beq_iff_eq.mp mark])
    · exact .inr none_
  · rintro ⟨lead, dash, trail, leads, dashed, trails, rfl⟩
    refine Language.mem_mul.mpr ⟨lead, mem_language_many_one.mpr leads, _, ?_, rfl⟩
    refine Language.mem_mul.mpr ⟨dash, ?_, trail, mem_language_many_one.mpr trails, rfl⟩
    rcases dashed with rfl | rfl
    · exact .inl ⟨'-', rfl, rfl⟩
    · exact .inr rfl

theorem exists_front (line : Text) : ∃ w ∈ front.language, line = w ++ Line.afterDash line := by
  obtain ⟨lead, leads, split⟩ := exists_blanks line
  unfold Line.afterDash
  split
  · rename_i rest dash
    obtain ⟨trail, trails, behind⟩ := exists_blanks rest
    refine ⟨lead ++ (['-'] ++ trail),
      mem_front_iff.mpr ⟨lead, ['-'], trail, leads, .inl rfl, trails, rfl⟩, ?_⟩
    rw [split, dash, List.append_assoc, List.append_assoc, ← behind]
    rfl
  · refine ⟨lead,
      mem_front_iff.mpr ⟨lead, [], [], leads, .inr rfl, List.forall_mem_nil _, ?_⟩, split⟩
    simp

theorem ne_dash_of_isWordChar {c : Char} (letter : isWordChar c = true) : c ≠ '-' := by
  rintro rfl
  revert letter
  decide +kernel

/-- In front of a word character nothing else can have been taken off. -/
theorem afterDash_front {w rest : Text} {c : Char} (member : w ∈ front.language)
    (letter : isWordChar c = true) : Line.afterDash (w ++ c :: rest) = c :: rest := by
  obtain ⟨lead, dash, trail, leads, dashed, trails, rfl⟩ := mem_front_iff.mp member
  have start : trimStart (trail ++ c :: rest) = c :: rest := by
    rw [trimStart_blanks trails]
    simp [trimStart, isBlank_of_isWordChar letter]
  rw [Line.afterDash, List.append_assoc, trimStart_blanks leads]
  rcases dashed with rfl | rfl
  · have mark : trimStart (['-'] ++ trail ++ c :: rest) = '-' :: (trail ++ c :: rest) := rfl
    simp only [mark, start]
  · rw [List.nil_append, start]
    split
    · rename_i same
      exact absurd (List.cons.inj same).1 (ne_dash_of_isWordChar letter)
    · rfl

/-! ## Lines -/

theorem ending_eq_nil {t : Text} (other : ¬ (Tag.isRun t = true ∧ words t ≠ [])) :
    ending.ways t = [] :=
  List.eq_nil_iff_forall_not_mem.mpr fun _ member => other (mem_ways_ending.mp member).2.1

theorem head?_ending {t : Text} (isRun_ : Tag.isRun t = true) (some_ : words t ≠ []) :
    (ending.ways t).head? = some ([(.tags, trimEnd t)], []) := by
  have there := mem_ways_ending.mpr ⟨rfl, ⟨isRun_, some_⟩, rfl⟩
  obtain ⟨way, more, ways⟩ := List.exists_cons_of_ne_nil (List.ne_nil_of_mem there)
  have here : (way.1, way.2) ∈ ending.ways t := ways ▸ List.mem_cons_self
  obtain ⟨rest, -, groups⟩ := mem_ways_ending.mp here
  rw [ways, List.head?_cons, ← rest, ← groups]

theorem ways_body {c : Char} (letter : isWordChar c = true) (rest : Text) :
    body.ways (c :: rest) =
      (splits (· != '\n') rest).map fun s => ([(.text, c :: s.1)], s.2) := by
  rw [body, ways, ways_seq_one_cons, if_pos letter, ways_few_one, List.map_map]
  refine List.map_congr_left fun s member => ?_
  have taken : (c :: rest).take ((c :: rest).length - s.2.length) = c :: s.1 := by
    rw [(of_mem_splits member).2, ← List.cons_append, List.length_append, Nat.add_sub_cancel,
      List.take_left]
  simp only [Function.comp_apply, taken, List.nil_append]

theorem body_eq_nil {t : Text} (other : ∀ c ∈ t.head?, isWordChar c = false) :
    (seq body ending).ways t = [] := by
  have none_ : body.ways t = [] := by
    cases t with
    | nil => rfl
    | cons c rest =>
        rw [body, ways, ways_seq_one_cons, other c rfl, if_neg Bool.false_ne_true, List.map_nil]
  rw [ways, chain, none_, List.flatMap_nil]

section Content

variable {c : Char} {said run : Text}

/-- What goes on behind the places where the text of an action may end. -/
def cuts (c : Char) (rest : Text) : List (Way Group) :=
  (splits (· != '\n') rest).flatMap fun s =>
    (ending.ways s.2).map fun later => ([(.text, c :: s.1)] ++ later.1, later.2)

theorem ways_content (letter : isWordChar c = true) (rest : Text) :
    (seq body ending).ways (c :: rest) = cuts c rest := by
  rw [ways, chain, ways_body letter, List.flatMap_map, cuts]

/-- The first place from which the line ends is where its longest run of tags begins. -/
theorem head?_cuts (single : '\n' ∉ said) (isRun_ : Tag.isRun run = true) (some_ : words run ≠ [])
    (longest : ∀ back, Tag.isRun back = true → back <:+ said ++ run → back <:+ run) :
    (cuts c (said ++ run)).head? = some ([(.text, c :: said), (.tags, trimEnd run)], []) := by
  refine head?_splits (all_ne single) ?_ fun x y split more => ?_
  · rw [List.head?_map, head?_ending isRun_ some_]
    rfl
  · have stuck : ending.ways (y ++ run) = [] := by
      refine ending_eq_nil fun ⟨longer, _⟩ => ?_
      have length := (longest _ longer ⟨x, by rw [split, List.append_assoc]⟩).length_le
      have some_ := List.length_pos_iff.mpr more
      rw [List.length_append] at length
      omega
    rw [stuck, List.map_nil]

/-- The line ends from no place if the longest run has no tags, or begins on a later line. -/
theorem cuts_eq_nil (other : ¬ ('\n' ∉ said ∧ words run ≠ []))
    (longest : ∀ back, Tag.isRun back = true → back <:+ said ++ run → back <:+ run) :
    cuts c (said ++ run) = [] := by
  refine List.flatMap_eq_nil_iff.mpr fun s member => ?_
  obtain ⟨letters, split⟩ := of_mem_splits member
  have stuck : ending.ways s.2 = [] := by
    refine ending_eq_nil fun ⟨isRun_, some_⟩ => other ?_
    obtain ⟨front, behind⟩ := longest s.2 isRun_ ⟨s.1, split.symm⟩
    have parts : said ++ front = s.1 := by
      rw [← behind, ← List.append_assoc] at split
      exact List.append_cancel_right split
    refine ⟨fun broken => ?_, ?_⟩
    · exact bne_iff_ne.mp (letters '\n' (parts ▸ List.mem_append_left front broken)) rfl
    · rw [← behind, words_append_startsBlank ((Tag.isRun_iff_words _).mp isRun_).1]
      simp [some_]
  rw [stuck, List.map_nil]

end Content

/-- The shortest text that tags can follow is the one that the longest run of tags follows. -/
theorem head?_content (t : Text) :
    ((seq body ending).ways t).head? =
      ((Line.body? t).filter fun (_, run) => !(words run).isEmpty).map fun (text, run) =>
        ([(.text, text), (.tags, trimEnd run)], []) := by
  cases t with
  | nil => rfl
  | cons c rest =>
      cases letter : isWordChar c with
      | false =>
          have none_ : Line.body? (c :: rest) = none := by simp [Line.body?, letter]
          rw [body_eq_nil (by simpa using letter), none_]
          rfl
      | true =>
          rw [ways_content letter, Line.body?, letter, Bool.true_and]
          have whole := Tag.splitRun_append rest
          have isRun_ := Tag.isRun_splitRun rest
          have longest : ∀ back, Tag.isRun back = true → back <:+ rest →
              back <:+ (Tag.splitRun rest).2 := fun back => Tag.suffix_splitRun
          generalize (Tag.splitRun rest).1 = said, (Tag.splitRun rest).2 = run at *
          subst whole
          by_cases goesOn : '\n' ∉ said ∧ words run ≠ []
          · rw [head?_cuts goesOn.1 isRun_ goesOn.2 longest]
            simp [Option.filter, goesOn]
          · rw [cuts_eq_nil goesOn longest]
            by_cases single : '\n' ∈ said
            · simp [single]
            · have empty : words run = [] := by simpa [single] using goesOn
              simp [Option.filter, single, empty]

theorem first?_eq (line : Text) :
    pattern.first? line =
      (capture? line).map fun (text, run) => [(.text, text), (.tags, trimEnd run)] := by
  have frontPlain : front.Plain := ⟨trivial, trivial, trivial⟩
  have head : (pattern.ways line).head? = ((seq body ending).ways (Line.afterDash line)).head? := by
    refine head?_chain_of_only ?_ fun way member => ?_
    · obtain ⟨w, within, split⟩ := exists_front line
      exact (mem_ways_iff frontPlain).mpr ⟨rfl, w, within, split⟩
    · obtain ⟨none_, w, within, split⟩ :=
        (mem_ways_iff frontPlain).mp (show (way.1, way.2) ∈ front.ways line from member)
      by_cases start : ∀ c ∈ way.2.head?, isWordChar c = false
      · exact .inr (body_eq_nil start)
      · push Not at start
        obtain ⟨c, first, letter⟩ := start
        obtain ⟨rest, parts⟩ := List.head?_eq_some_iff.mp first
        rw [split, parts, afterDash_front within (by simpa using letter), ← parts, ← none_]
        exact .inl rfl
  rw [first?, head, head?_content, capture?]
  cases (Line.body? (Line.afterDash line)).filter fun (_, run) => !(words run).isEmpty <;> rfl

/-- The text in front of the longest run of tags has no blanks around it. -/
theorem trim_of_body? {t text run : Text} (found : Line.body? t = some (text, run)) :
    trim text = text := by
  cases t with
  | nil => cases found
  | cons c rest =>
      rw [Line.body?, Option.ite_none_right_eq_some, Bool.and_eq_true, Option.some.injEq,
        Prod.mk.injEq] at found
      obtain ⟨⟨letter, -⟩, rfl, rfl⟩ := found
      have letter := isBlank_of_isWordChar letter
      have start : trimStart (c :: (Tag.splitRun rest).1) = c :: (Tag.splitRun rest).1 := by
        simp [trimStart, letter]
      rw [trim, start, trimEnd_cons letter]
      obtain ⟨blanks, blank, split⟩ := exists_trimEnd (Tag.splitRun rest).1
      cases blanks with
      | nil => rw [List.append_nil] at split; rw [← split]
      | cons b blanks =>
          -- Blanks at the end of the text would belong to the run.
          have longer : Tag.isRun (b :: blanks ++ (Tag.splitRun rest).2) = true := by
            rw [Tag.isRun_iff_words, words_blanks_append blank]
            refine ⟨fun d head => ?_, ((Tag.isRun_iff_words _).mp (Tag.isRun_splitRun rest)).2⟩
            exact Option.some.inj head ▸ blank b List.mem_cons_self
          have within : b :: blanks ++ (Tag.splitRun rest).2 <:+ rest := by
            refine ⟨trimEnd (Tag.splitRun rest).1, ?_⟩
            rw [← List.append_assoc, ← split, Tag.splitRun_append]
          have length := (Tag.suffix_splitRun longer within).length_le
          rw [List.length_append, List.length_cons] at length
          omega

/-- **The recogniser is the pattern.** -/
theorem matched?_eq (line : Text) : matched? line = ofLine? line := by
  rw [matched?, first?_eq, ofLine?_eq]
  cases found : capture? line with
  | none => rfl
  | some parts =>
      obtain ⟨text, run⟩ := parts
      obtain ⟨body, -⟩ := Option.filter_eq_some_iff.mp found
      show some (Action.mk (trim text) (Tag.read (trimEnd run)).1 (Tag.read (trimEnd run)).2) = _
      rw [trim_of_body? body, Tag.read_trimEnd]
      rfl

/-! ## Lines that are no action -/

/-- The last word of a line of action is a tag. -/
theorem exists_last_tag {line : Text} {a : Action} (action : ofLine? line = some a) :
    ∃ token, token ≠ [] ∧ '#' :: token ∈ (words line).getLast? := by
  rw [ofLine?_eq] at action
  obtain ⟨⟨text, run⟩, found, -⟩ := Option.map_eq_some_iff.mp action
  obtain ⟨⟨front, parts⟩, isRun_⟩ := suffix_of_capture? found
  have some_ : words run ≠ [] := by simpa using (Option.filter_eq_some_iff.mp found).2
  obtain ⟨starts, marked⟩ := (Tag.isRun_iff_words run).mp isRun_
  obtain ⟨word, last⟩ := Option.ne_none_iff_exists'.mp (mt List.getLast?_eq_none_iff.mp some_)
  have member := List.mem_of_getLast? last
  obtain ⟨token, letters, rfl⟩ :=
    Tag.exists_of_isMarked (isWord_of_mem_words member) (marked word member)
  refine ⟨token, letters.1, ?_⟩
  rw [← parts, ← List.append_assoc, words_append_startsBlank starts, List.getLast?_append, last]
  rfl

/-! ## Written lines -/

/-- What the parts of an action have to be like, if they are written on a line. -/
structure Writable (a : Action) : Prop where
  text : Line.IsText a.text
  tags : Tag.Writable a.id a.tags
  tagged : a.id = [] → a.tags ≠ []

/-- An action as it is written: `text #id:name #tag`, with a dash in front or without. -/
def written (dashed : Bool) (a : Action) : Text :=
  Line.led dashed (a.text ++ Tag.written (Tag.declaring a.id a.tags))

theorem ofLine?_of_writable {a : Action} (writable : a.Writable) (dashed : Bool) :
    ofLine? (a.written dashed) = some a := by
  obtain ⟨text, tags, tagged⟩ := writable
  have words_ := tags.declaring
  obtain ⟨c, rest, start, blank, -⟩ := text.exists_cons
  have letter : isWordChar c = true := by simpa [start] using text.start
  have dash : Line.afterDash (a.written dashed) =
      a.text ++ Tag.written (Tag.declaring a.id a.tags) := by
    refine Line.afterDash_led (by rw [start, List.cons_append]) blank ?_ dashed
    exact ne_dash_of_isWordChar letter
  have some_ : words (Tag.written (Tag.declaring a.id a.tags)) ≠ [] := by
    intro none_
    have tokens := Tag.tokens_written words_
    rw [Tag.tokens, none_, Tag.declaring] at tokens
    split at tokens
    · rename_i unnamed
      exact tagged unnamed tokens.symm
    · cases tokens
  have found : capture? (a.written dashed) =
      some (a.text, Tag.written (Tag.declaring a.id a.tags)) := by
    rw [capture?, dash, Line.body?_written text (Tag.groups_written words_)]
    simp [Option.filter, some_]
  rw [ofLine?_eq, found]
  simp only [Option.map_some, Tag.read_written tags]

/-- **Lines of action are read as they are written.** The recogniser is the pattern; an action that
is written from its parts is read back as these parts; and a line whose last word is no tag is no
action. -/
theorem reads_written :
    (∀ line, ofLine? line = matched? line) ∧
    (∀ (a : Action) (dashed : Bool), a.Writable → ofLine? (a.written dashed) = some a) ∧
    ∀ line, (¬ ∃ token, token ≠ [] ∧ '#' :: token ∈ (words line).getLast?) →
      ofLine? line = none := by
  refine ⟨fun line => (matched?_eq line).symm, fun a dashed writable =>
    ofLine?_of_writable writable dashed, fun line untagged => ?_⟩
  rw [Option.eq_none_iff_forall_ne_some]
  exact fun a action => untagged (exists_last_tag action)

/-- Hashes and a dash in the text, a second identifier among the tags; and a tag that is not the
last word of its line. -/
theorem reads_written_of_hashes :
    let a : Action :=
      ⟨"C# - see #2 (or #3) so".toList, "n:1".toList, ["a#b".toList, "id:m".toList]⟩
    a.Writable ∧ ofLine? (a.written true) = some a ∧
      ofLine? "She waits. #id:a now#b".toList = none := by
  intro a
  have tails : a.text.tails.all (fun back => back.isEmpty || !Tag.isRun back) = true := by
    decide +kernel
  have untagged : ∀ back, back <:+ a.text → back ≠ [] → ¬ Tag.Groups back := by
    intro back behind some_ groups
    have isRun_ : Tag.isRun back = true := (Tag.isRun_iff back).mpr
      ⟨back, [], groups, List.forall_mem_nil _, (List.append_nil back).symm⟩
    have not_ := List.all_eq_true.mp tails back ((List.mem_tails back a.text).mpr behind)
    simp [some_, isRun_] at not_
  have words_ : a.tags.all (fun tag => !tag.isEmpty && tag.all (!isBlank ·)) = true := by decide
  have word : ∀ tag ∈ a.tags, IsWord tag := by
    intro tag member
    simpa [IsWord] using List.all_eq_true.mp words_ tag member
  have name : a.id.all (!isBlank ·) = true := by decide
  have writable : a.Writable := {
    text := ⟨by decide +kernel, by decide, by decide, untagged⟩
    tags := ⟨fun c member => by simpa using List.all_eq_true.mp name c member, word,
      fun unnamed => absurd unnamed (by decide)⟩
    tagged := by decide }
  have last : (words "She waits. #id:a now#b".toList).getLast? = some "now#b".toList := by
    decide +kernel
  refine ⟨writable, reads_written.2.1 a true writable, reads_written.2.2 _ ?_⟩
  rintro ⟨token, -, member⟩
  rw [last] at member
  cases member

end Action

end Beatsheet

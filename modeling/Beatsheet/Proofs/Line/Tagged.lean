/-
# Beatsheet.Proofs.Line.Tagged — a line in and outside the beats

A line that is a beat where the annotation is on is a tagged line where it is off, if it declares an
identifier (`Tagged.ofLine?`). The two read its tags differently: a beat takes the words of the run
behind its text, a tagged line all that stands from the first `#` of the line to the next `]`, cut at
each `#`.

So they agree if no `#` stands before the run and no tag holds a `#` or a `]` (`Tag.Apart`). They
agree otherwise only by chance: what stands before the run has a `#` with a `]` behind it, the run is
not looked at outside the beats, and the same tags happen to be declared there (`tagged_of_beat`).

The pieces between the marks are counted for this: there is one for each `#`, and a token for each
`#` of the run at most.
-/
import Beatsheet.Proofs.Line.Capture

set_option autoImplicit false

namespace Beatsheet

open Text

/-! ## Tokens and marks -/

namespace Tag

variable {run : Text}

/-- Each token of a run has its mark. -/
theorem length_tokens_le (groups : Groups run) : (tokens run).length ≤ run.count '#' := by
  induction groups with
  | nil => exact Nat.zero_le _
  | @group blanks token rest parted blank word behind ih =>
      rw [tokens_group blank word behind.startsBlank, List.length_cons, List.count_append,
        List.count_append, List.count_cons_self]
      omega

/-- Any other character of a run stands in one of its tokens. -/
theorem exists_token (groups : Groups run) {c : Char} (member : c ∈ run)
    (letter : isBlank c = false) (other : c ≠ '#') : ∃ token ∈ tokens run, c ∈ token := by
  induction groups with
  | nil => cases member
  | @group blanks token rest parted blank word behind ih =>
      rw [tokens_group blank word behind.startsBlank]
      rcases List.mem_append.mp member with first | later
      · rcases List.mem_append.mp first with gap | marked
        · rw [blank c gap] at letter
          cases letter
        · rcases List.mem_cons.mp marked with mark | within
          · exact absurd mark other
          · exact ⟨token, List.mem_cons_self, within⟩
      · obtain ⟨found, place, within⟩ := ih later
        exact ⟨found, List.mem_cons_of_mem token place, within⟩

/-- The pieces between the marks are the tokens, if no token holds a mark. -/
theorem pieces_eq {token rest : Text} (word : IsWord token) (groups : Groups rest)
    (plain : ∀ t ∈ token :: tokens rest, '#' ∉ t) :
    (splitWhere (· == '#') (token ++ rest)).map trim = token :: tokens rest := by
  induction groups generalizing token with
  | nil =>
      have unmarked : ∀ c ∈ token, (c == '#') = false := fun c member =>
        beq_false_of_ne fun mark => plain token List.mem_cons_self (mark ▸ member)
      have trimmed := @IsWord.trim_append token [] word nofun
      rw [List.append_nil] at trimmed ⊢
      rw [splitWhere_of_none unmarked, List.map_singleton, trimmed]
      rfl
  | @group blanks next rest parted blank next_ behind ih =>
      rw [tokens_group blank next_ behind.startsBlank] at plain ⊢
      have unmarked : ∀ c ∈ token ++ blanks, (c == '#') = false := by
        intro c member
        refine beq_false_of_ne fun mark => ?_
        rcases List.mem_append.mp member with within | gap
        · exact plain token List.mem_cons_self (mark ▸ within)
        · cases blank '#' (mark ▸ gap)
      have parts : token ++ (blanks ++ '#' :: next ++ rest) =
          token ++ blanks ++ '#' :: (next ++ rest) := by simp
      rw [parts, splitWhere_append_cons rfl, splitWhere_of_none unmarked, List.map_append,
        List.map_singleton, word.trim_append blank,
        ih next_ fun t member => plain t (List.mem_cons_of_mem token member)]
      rfl

/-! ## Identifiers -/

theorem fst_takeId (tokens : List Text) : (takeId tokens).1 = (tokens.filterMap id?).head? := by
  induction tokens with
  | nil => rfl
  | cons token rest ih =>
      cases found : id? token with
      | some name => simp [takeId, found]
      | none => simpa [takeId, found] using ih

/-- Nothing but the first identifier is taken out. -/
theorem perm_takeId {tokens : List Text} {name : Text} (found : (takeId tokens).1 = some name) :
    tokens.Perm ((idMark ++ name) :: (takeId tokens).2) := by
  induction tokens with
  | nil => cases found
  | cons token rest ih =>
      cases here : id? token with
      | some other =>
          simp only [takeId, here, Option.some.injEq] at found ⊢
          rw [← found, ← (id?_eq_some_iff.mp here).2]
      | none =>
          simp only [takeId, here] at found ⊢
          exact ((ih found).cons token).trans (List.Perm.swap _ _ _)

/-- One of the tokens is an identifier, and these are the others. -/
structure Names (tokens : List Text) (id : Text) (others : List Text) : Prop where
  one : tokens.filterMap id? = [id]
  rest : (takeId tokens).2 = others

theorem Names.perm {tokens others : List Text} {id : Text} (names : Names tokens id others) :
    tokens.Perm ((idMark ++ id) :: others) := by
  have first : (takeId tokens).1 = some id := by
    rw [fst_takeId, names.one]
    rfl
  have whole := perm_takeId first
  rwa [names.rest] at whole

end Tag

/-! ## Tagged lines -/

namespace Tag

theorem groups?_eq_some {t : Text} {tokens : List Text} (found : groups? t = some tokens) :
    tokens.length = t.count '#' ∧ ∀ token ∈ tokens, ∀ c ∈ token, c ∈ t ∧ c ≠ '#' := by
  unfold groups? at found
  split at found
  · rename_i rest
    dsimp only at found
    rw [Option.ite_none_left_eq_some, Option.some.injEq] at found
    obtain ⟨-, rfl⟩ := found
    constructor
    · rw [List.length_map, length_splitWhere, List.count_cons_self]
      rfl
    · intro token member c within
      obtain ⟨piece, place, rfl⟩ := List.mem_map.mp member
      have inside := (infix_trim piece).subset within
      refine ⟨List.mem_cons_of_mem '#' (mem_of_mem_splitWhere place inside), ?_⟩
      simpa using not_mem_of_mem_splitWhere place inside
  · cases found

/-- What a tagged line is read from: the line from its first `#` up to the next `]`. -/
def marked (line : Text) : Text :=
  trimEnd (before ']' (line.dropWhile (· != '#')))

/-- No `#` stands before the run, and no tag in it holds a `#` or a `]` of its own. -/
def Apart (head run : Text) : Prop :=
  '#' ∉ head ∧ ∀ token ∈ tokens run, '#' ∉ token ∧ ']' ∉ token

theorem groups?_eq {token rest : Text} (word : IsWord token) (groups : Groups rest)
    (plain : ∀ t ∈ token :: tokens rest, '#' ∉ t) :
    groups? ('#' :: token ++ rest) = some (token :: tokens rest) := by
  have whole : ∀ t ∈ token :: tokens rest, t.isEmpty = false := by
    rintro t (_ | ⟨_, member⟩)
    · exact List.isEmpty_eq_false_iff.mpr word.1
    · exact List.isEmpty_eq_false_iff.mpr (isWord_of_mem_tokens groups member).1
  have some_ : (token :: tokens rest).any (·.isEmpty) = false :=
    List.any_eq_false.mpr fun t member => by rw [whole t member]; exact Bool.false_ne_true
  rw [List.cons_append, groups?, pieces_eq word groups plain, some_, if_neg Bool.false_ne_true]

/-! ## Where a tagged line ends -/

variable {head blanks run : Text}

theorem mem_marked {line : Text} {c : Char} (member : c ∈ marked line) : c ≠ ']' := by
  have within := List.mem_takeWhile_imp ((prefix_trimEnd _).subset member)
  simpa using within

/-- What stands behind the `]` is not looked at. -/
theorem marked_of_cut (cut : ']' ∈ head.dropWhile (· != '#')) (rest : Text) :
    marked (head ++ rest) = marked head := by
  have some_ : ¬ (head.dropWhile (· != '#')).isEmpty = true := by
    rw [List.isEmpty_iff]
    exact List.ne_nil_of_mem cut
  have short : ¬ ((head.dropWhile (· != '#')).takeWhile (· != ']')).length =
      (head.dropWhile (· != '#')).length := by
    intro same
    have all := List.takeWhile_eq_self_iff.mp
      ((List.takeWhile_prefix (· != ']')).eq_of_length same) ']' cut
    simp at all
  rw [marked, marked, List.dropWhile_append, if_neg some_, before, before, List.takeWhile_append,
    if_neg short]

theorem not_mem_run (groups : Groups run) (blank : ∀ c ∈ blanks, isBlank c = true)
    (open_ : ∀ token ∈ tokens run, ']' ∉ token) : ']' ∉ run ++ blanks := by
  intro member
  rcases List.mem_append.mp member with within | gap
  · obtain ⟨token, place, inside⟩ := exists_token groups within (by decide) (by decide)
    exact open_ token place inside
  · cases blank ']' gap

/-- The marks of a line that is read to its end. -/
theorem count_marked {t : Text} (open_ : ']' ∉ t.dropWhile (· != '#')) :
    (marked t).count '#' = t.count '#' := by
  have front : (t.takeWhile (· != '#')).count '#' = 0 := by
    rw [List.count_eq_zero]
    intro member
    simpa using List.mem_takeWhile_imp member
  rw [marked, before_of_not_mem open_, count_trimEnd (by decide)]
  conv_rhs => rw [← @List.takeWhile_append_dropWhile _ (· != '#') t, List.count_append, front,
    Nat.zero_add]

end Tag

namespace Tagged

theorem ofLine?_eq (line : Text) :
    ofLine? line = (Tag.groups? (Tag.marked line)).bind fun tokens =>
      match tokens.filterMap Tag.id? with
      | [name] => some ⟨name, (Tag.takeId tokens).2⟩
      | _ => none :=
  rfl

theorem ofLine?_congr {line other : Text} (same : Tag.marked line = Tag.marked other) :
    ofLine? line = ofLine? other := by
  rw [ofLine?_eq, ofLine?_eq, same]

theorem ofLine?_eq_some_iff {line id : Text} {tags : List Text} :
    ofLine? line = some ⟨id, tags⟩ ↔
      ∃ tokens, Tag.groups? (Tag.marked line) = some tokens ∧ Tag.Names tokens id tags := by
  rw [ofLine?_eq, Option.bind_eq_some_iff]
  refine exists_congr fun tokens => and_congr_right fun _ => ?_
  split
  · rename_i name one
    constructor
    · rintro ⟨rfl, rfl⟩
      exact ⟨one, rfl⟩
    · rintro ⟨one', rfl⟩
      obtain rfl := List.head_eq_of_cons_eq (one.symm.trans one')
      rfl
  · rename_i other
    exact ⟨nofun, fun names => absurd names.one (other id)⟩

variable {head run blanks id : Text} {tags : List Text}

/-- Where the run is looked at, the same tags are found only if no mark and no `]` stands in the way.
-/
theorem apart_of_ofLine? (groups : Tag.Groups run) (blank : ∀ c ∈ blanks, isBlank c = true)
    (names : Tag.Names (Tag.tokens run) id tags) (open_ : ']' ∉ head.dropWhile (· != '#'))
    (found : ofLine? (head ++ run ++ blanks) = some ⟨id, tags⟩) : Tag.Apart head run := by
  obtain ⟨pieces, cut, others⟩ := ofLine?_eq_some_iff.mp found
  obtain ⟨size, within⟩ := Tag.groups?_eq_some cut
  have same : (Tag.tokens run).Perm pieces := names.perm.trans others.perm.symm
  have plain : ∀ token ∈ Tag.tokens run, '#' ∉ token ∧ ']' ∉ token := by
    intro token member
    have inside := within token (same.mem_iff.mp member)
    exact ⟨fun mark => (inside _ mark).2 rfl, fun cut => Tag.mem_marked (inside _ cut).1 rfl⟩
  refine ⟨fun mark => ?_, plain⟩
  have behind := Tag.not_mem_run groups blank fun token member => (plain token member).2
  have whole : ']' ∉ (head ++ run ++ blanks).dropWhile (· != '#') := by
    rw [List.append_assoc, List.dropWhile_append]
    split
    · exact fun member => behind ((List.dropWhile_suffix _).subset member)
    · rw [List.mem_append]
      exact not_or.mpr ⟨open_, behind⟩
  -- Each mark makes a piece, so one more before the run makes too many of them.
  rw [Tag.count_marked whole, List.count_append, List.count_append] at size
  have before_ := List.one_le_count_iff.mpr mark
  have least := Tag.length_tokens_le groups
  have equal := same.length_eq
  omega

theorem ofLine?_of_apart (groups : Tag.Groups run) (blank : ∀ c ∈ blanks, isBlank c = true)
    (names : Tag.Names (Tag.tokens run) id tags) (apart : Tag.Apart head run) :
    ofLine? (head ++ run ++ blanks) = some ⟨id, tags⟩ := by
  refine ofLine?_eq_some_iff.mpr ⟨Tag.tokens run, ?_, names⟩
  obtain ⟨unmarked, plain⟩ := apart
  have open_ := Tag.not_mem_run groups blank fun token member => (plain token member).2
  cases groups with
  | nil => cases names.one
  | @group lead token rest parted leads word behind =>
      rw [Tag.tokens_group leads word behind.startsBlank] at plain ⊢
      have front : '#' ∉ head ++ lead := by
        rw [List.mem_append]
        rintro (early | gap)
        · exact unmarked early
        · cases leads '#' gap
      have parts : head ++ (lead ++ '#' :: token ++ rest) ++ blanks =
          head ++ lead ++ ('#' :: token ++ rest ++ blanks) := by simp
      have start : (head ++ (lead ++ '#' :: token ++ rest) ++ blanks).dropWhile (· != '#') =
          '#' :: token ++ rest ++ blanks := by
        rw [parts, List.dropWhile_append_of_pos (all_ne front)]
        rfl
      have closed : ']' ∉ '#' :: token ++ rest ++ blanks := fun member =>
        open_ (by simpa only [List.append_assoc] using List.mem_append_right lead member)
      have read : Tag.marked (head ++ (lead ++ '#' :: token ++ rest) ++ blanks) =
          '#' :: token ++ rest := by
        rw [Tag.marked, start, before_of_not_mem closed, trimEnd_blanks blank]
        exact Tag.trimEnd_group word behind.trimEnd_eq []
      rw [read]
      exact Tag.groups?_eq word behind fun t member => (plain t member).1

/-- Whether what stands before a run lets all of the run be seen outside the beats, or hides it and
declares the same. -/
def Alike (head run : Text) (t : Tagged) : Prop :=
  Tag.Apart head run ∨ (']' ∈ head.dropWhile (· != '#') ∧ ofLine? head = some t)

/-- The one identifier of a run and its other tags are declared outside the beats just if the line is
alike in both. -/
theorem ofLine?_append_run (groups : Tag.Groups run) (blank : ∀ c ∈ blanks, isBlank c = true)
    (names : Tag.Names (Tag.tokens run) id tags) :
    ofLine? (head ++ run ++ blanks) = some ⟨id, tags⟩ ↔ Alike head run ⟨id, tags⟩ := by
  by_cases cut : ']' ∈ head.dropWhile (· != '#')
  · rw [List.append_assoc, ofLine?_congr (Tag.marked_of_cut cut (run ++ blanks))]
    constructor
    · exact fun found => .inr ⟨cut, found⟩
    · rintro (⟨unmarked, -⟩ | ⟨-, found⟩)
      · have none_ : head.dropWhile (· != '#') = [] :=
          List.dropWhile_eq_nil_iff.mpr (all_ne unmarked)
        rw [none_] at cut
        cases cut
      · exact found
  · constructor
    · exact fun found => .inl (apart_of_ofLine? groups blank names cut found)
    · rintro (apart | ⟨cut', -⟩)
      · exact ofLine?_of_apart groups blank names apart
      · exact absurd cut' cut

/-- A line that ends with a run that names it. -/
theorem ofLine?_of_read {line text : Text} (ends : text ++ run <:+ line)
    (isRun_ : Tag.isRun run = true) (named : (Tag.read run).1 ≠ []) :
    ∃ head blanks, (∀ c ∈ blanks, isBlank c = true) ∧ line = head ++ trimEnd run ++ blanks ∧
      (((Tag.tokens (trimEnd run)).filterMap Tag.id?).length = 1 →
        (ofLine? line = some ⟨(Tag.read run).1, (Tag.read run).2⟩ ↔
          Alike head (trimEnd run) ⟨(Tag.read run).1, (Tag.read run).2⟩)) := by
  obtain ⟨front, rfl⟩ := ends
  obtain ⟨blanks, blank, split⟩ := exists_trimEnd run
  have parts : front ++ (text ++ run) = front ++ text ++ trimEnd run ++ blanks := by
    rw [List.append_assoc (front ++ text), ← split, List.append_assoc]
  refine ⟨front ++ text, blanks, blank, parts, fun single => ?_⟩
  have told : Tag.ofRun run = Tag.tokens (trimEnd run) := by
    rw [Tag.tokens, words_trimEnd, ← Tag.tokens]
    refine Tag.ofRun_eq_tokens ?_
    by_contra other
    exact named (by rw [Tag.read_eq_nil other])
  obtain ⟨name, one⟩ := List.length_eq_one_iff.mp single
  have first : (Tag.read run).1 = name := by
    rw [Tag.read, told, Tag.fst_takeId, one]
    rfl
  rw [parts]
  refine ofLine?_append_run (Tag.groups_trimEnd isRun_) blank ⟨?_, ?_⟩
  · rw [one, first]
  · rw [Tag.read, told]

end Tagged

/-- **A line in and outside the beats.** A line that is a beat with an identifier declares the same
identifier and tags outside the beats just if its tags stand apart from what is before them, or if
only that is looked at and declares the same. -/
theorem tagged_of_beat (line : Text) :
    (∀ s, Speech.ofLine? line = some s → s.id ≠ [] →
      ∃ run head blanks, Speech.run? line = some run ∧ (∀ c ∈ blanks, isBlank c = true) ∧
        line = head ++ run ++ blanks ∧ (((Tag.tokens run).filterMap Tag.id?).length = 1 →
          (Tagged.ofLine? line = some ⟨s.id, s.tags⟩ ↔ Tagged.Alike head run ⟨s.id, s.tags⟩))) ∧
    (∀ a, Action.ofLine? line = some a → a.id ≠ [] →
      ∃ run head blanks, Action.run? line = some run ∧ (∀ c ∈ blanks, isBlank c = true) ∧
        line = head ++ run ++ blanks ∧ (((Tag.tokens run).filterMap Tag.id?).length = 1 →
          (Tagged.ofLine? line = some ⟨a.id, a.tags⟩ ↔ Tagged.Alike head run ⟨a.id, a.tags⟩))) := by
  constructor
  · intro s speech named
    rw [Speech.ofLine?_eq] at speech
    obtain ⟨c, found, rfl⟩ := Option.map_eq_some_iff.mp speech
    obtain ⟨ends, isRun_⟩ := Speech.suffix_of_capture? found
    obtain ⟨head, blanks, whole⟩ := Tagged.ofLine?_of_read ends isRun_ named
    exact ⟨trimEnd c.run, head, blanks, by rw [Speech.run?, found]; rfl, whole⟩
  · intro a action named
    rw [Action.ofLine?_eq] at action
    obtain ⟨⟨text, run⟩, found, rfl⟩ := Option.map_eq_some_iff.mp action
    obtain ⟨ends, isRun_⟩ := Action.suffix_of_capture? found
    obtain ⟨head, blanks, whole⟩ := Tagged.ofLine?_of_read ends isRun_ named
    exact ⟨trimEnd run, head, blanks, by rw [Action.run?, found]; rfl, whole⟩

/-- Tags in brackets within a speech that happen to be those behind it, and an action with brackets
before its tags. -/
theorem tagged_of_beat_of_brackets :
    let line : Text := "FRED: Is [#id:a #x] it #id:a\t#x ".toList
    let other : Text := "- A door [closed] #sfx:door #id:b".toList
    let s : Speech :=
      ⟨"FRED".toList, none, none, "Is [#id:a #x] it".toList, "a".toList, ["x".toList]⟩
    let a : Action := ⟨"A door [closed]".toList, "b".toList, ["sfx:door".toList]⟩
    Speech.ofLine? line = some s ∧ Action.ofLine? other = some a ∧
      (∃ run head, Speech.run? line = some run ∧ Tagged.Alike head run ⟨s.id, s.tags⟩) ∧
      (∃ run head, Action.run? other = some run ∧ Tagged.Alike head run ⟨a.id, a.tags⟩) := by
  intro line other s a
  have speech : Speech.ofLine? line = some s := by decide +kernel
  have action : Action.ofLine? other = some a := by decide +kernel
  have first : Speech.run? line = some " #id:a\t#x".toList := by decide +kernel
  have second : Action.run? other = some " #sfx:door #id:b".toList := by decide +kernel
  refine ⟨speech, action, ?_, ?_⟩
  · obtain ⟨run, head, blanks, found, -, -, alike⟩ :=
      (tagged_of_beat line).1 s speech (by decide +kernel)
    obtain rfl := Option.some.inj (first.symm.trans found)
    exact ⟨_, head, found, (alike (by decide +kernel)).mp (by decide +kernel)⟩
  · obtain ⟨run, head, blanks, found, -, -, alike⟩ :=
      (tagged_of_beat other).2 a action (by decide +kernel)
    obtain rfl := Option.some.inj (second.symm.trans found)
    exact ⟨_, head, found, (alike (by decide +kernel)).mp (by decide +kernel)⟩

/-- A bracket in the first tag, behind which nothing is looked at. -/
theorem not_always_alike :
    ¬ ∀ (line run : Text) (s : Speech), line.any isBreak = false →
      Speech.ofLine? line = some s → s.id ≠ [] → Speech.run? line = some run →
      ((Tag.tokens run).filterMap Tag.id?).length = 1 →
      Tagged.ofLine? line = some ⟨s.id, s.tags⟩ := by
  intro always
  have tagged := always "FRED: Hi #sfx[door] #id:a".toList " #sfx[door] #id:a".toList
    ⟨"FRED".toList, none, none, "Hi".toList, "a".toList, ["sfx[door]".toList]⟩
    (by decide +kernel) (by decide +kernel) (by decide +kernel) (by decide +kernel)
    (by decide +kernel)
  revert tagged
  decide +kernel

end Beatsheet

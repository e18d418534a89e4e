/-
# Beatsheet.Proofs.Tag.Line — lines of tags

A line of tags is made of groups, each of them `#` and all that stands before the next `#`. Groups
are read one after another for as long as there is one (`readAll`), and nothing may be left behind
the last: what is read that way is a text that begins with `#`, cut at its `#` characters, and there
is one way to cut it (`read?_eq_some_iff`, `Parted.unique`). Only then the pieces are trimmed. So
the blanks around a token are no part of it, those inside it are, and one blank piece spoils the
line (`line?_of_hashes`).
-/
import Beatsheet.Proofs.Line.Label
import Beatsheet.Proofs.Text.Words

set_option autoImplicit false

namespace Beatsheet

open Text

namespace Tag

variable {t : Text} {pieces : List Text}

/-! ## The pieces of a text -/

/-- The text is these pieces, with `#` in front of each of them and in none of them. -/
structure Parted (t : Text) (pieces : List Text) : Prop where
  some_ : pieces ≠ []
  whole : t = pieces.flatMap ('#' :: ·)
  apart : ∀ piece ∈ pieces, '#' ∉ piece

theorem Parted.exists_rest (parted : Parted t pieces) :
    ∃ rest, t = '#' :: rest ∧ splitWhere (· == '#') rest = pieces := by
  obtain ⟨first, others, rfl⟩ := List.exists_cons_of_ne_nil parted.some_
  refine ⟨join ['#'] (first :: others), ?_, splitWhere_join parted.some_ parted.apart⟩
  rw [parted.whole, join_cons]
  rfl

theorem parted_splitWhere (rest : Text) : Parted ('#' :: rest) (splitWhere (· == '#') rest) := by
  refine ⟨splitWhere_ne_nil _ rest, ?_, ?_⟩
  · obtain ⟨first, others, split⟩ :=
      List.exists_cons_of_ne_nil (splitWhere_ne_nil (· == '#') rest)
    have joined := join_splitWhere '#' rest
    rw [split, join_cons] at joined
    rw [split, ← joined]
    rfl
  · intro piece member hash
    simpa using not_mem_of_mem_splitWhere member hash

/-- A text has its pieces in one way only. -/
theorem Parted.unique {others : List Text} (parted : Parted t pieces) (again : Parted t others) :
    pieces = others := by
  obtain ⟨rest, rfl, split⟩ := parted.exists_rest
  obtain ⟨_, same, splits⟩ := again.exists_rest
  rw [← split, ← splits, (List.cons.inj same).2]

/-! ## Reading groups -/

/-- A group at the start of a text, and what follows it. -/
def group? : Text → Option (Text × Text)
  | '#' :: rest => some (rest.takeWhile (· != '#'), rest.dropWhile (· != '#'))
  | _ => none

theorem append_of_group? {piece rest : Text} (found : group? t = some (piece, rest)) :
    t = '#' :: piece ++ rest ∧ '#' ∉ piece := by
  unfold group? at found
  split at found
  · rename_i behind
    obtain ⟨rfl, rfl⟩ := Prod.mk.inj (Option.some.inj found)
    refine ⟨by rw [List.cons_append, List.takeWhile_append_dropWhile], fun hash => ?_⟩
    simpa using List.mem_takeWhile_imp hash
  · cases found

/-- Groups one after another, as long as there is one, and what is left behind them. -/
def readAll (t : Text) : List Text × Text :=
  match _found : group? t with
  | some (piece, rest) => (piece :: (readAll rest).1, (readAll rest).2)
  | none => ([], t)
termination_by t.length
decreasing_by
  all_goals
    rw [(append_of_group? _found).1, List.length_append, List.length_cons]
    omega

/-- The pieces of a text that is one group or more, and nothing behind them. -/
def read? (t : Text) : Option (List Text) :=
  match readAll t with
  | (piece :: rest, []) => some (piece :: rest)
  | _ => none

theorem readAll_of_group? {piece rest : Text} (found : group? t = some (piece, rest)) :
    readAll t = (piece :: (readAll rest).1, (readAll rest).2) := by
  rw [readAll]
  split <;> simp_all

theorem group?_append {piece : Text} (apart : '#' ∉ piece) (ends : ∀ c ∈ t.head?, c = '#') :
    group? ('#' :: piece ++ t) = some (piece, t) := by
  have letters : ∀ c ∈ piece, (c != '#') = true := all_ne apart
  have stops : t.takeWhile (· != '#') = [] ∧ t.dropWhile (· != '#') = t := by
    cases t with
    | nil => exact ⟨rfl, rfl⟩
    | cons c rest =>
        obtain rfl := ends c rfl
        exact ⟨rfl, rfl⟩
  rw [List.cons_append, group?, List.takeWhile_append_of_pos letters,
    List.dropWhile_append_of_pos letters, stops.1, stops.2, List.append_nil]

theorem readAll_pieces (apart : ∀ piece ∈ pieces, '#' ∉ piece) :
    readAll (pieces.flatMap ('#' :: ·)) = (pieces, []) := by
  induction pieces with
  | nil => rw [List.flatMap_nil, readAll]; rfl
  | cons piece rest ih =>
      obtain ⟨first, others⟩ := List.forall_mem_cons.mp apart
      have ends : ∀ c ∈ (rest.flatMap ('#' :: ·)).head?, c = '#' := by
        cases rest <;> simp
      have found := group?_append first ends
      rw [← List.flatMap_cons] at found
      rw [readAll_of_group? found, ih others]

/-- What is read are pieces, and what is left is what they leave of the text. -/
theorem readAll_spec (t : Text) :
    t = (readAll t).1.flatMap ('#' :: ·) ++ (readAll t).2 ∧
      ∀ piece ∈ (readAll t).1, '#' ∉ piece := by
  fun_induction readAll t with
  | case1 t piece rest found ih =>
      obtain ⟨whole, first⟩ := append_of_group? found
      refine ⟨?_, List.forall_mem_cons.mpr ⟨first, ih.2⟩⟩
      rw [List.flatMap_cons, List.append_assoc, ← ih.1]
      exact whole
  | case2 t none_ => exact ⟨rfl, List.forall_mem_nil _⟩

/-- The groups that are read are the pieces of the text. -/
theorem read?_eq_some_iff : read? t = some pieces ↔ Parted t pieces := by
  constructor
  · intro found
    obtain ⟨whole, apart⟩ := readAll_spec t
    unfold read? at found
    split at found
    · rename_i piece rest all
      obtain rfl := Option.some.inj found
      rw [all] at whole apart
      exact ⟨List.cons_ne_nil piece rest, by simpa using whole, apart⟩
    · cases found
  · intro parted
    obtain ⟨first, others, rfl⟩ := List.exists_cons_of_ne_nil parted.some_
    rw [parted.whole, read?, readAll_pieces parted.apart]

/-! ## Tokens -/

/-- The tokens that pieces are read as. -/
def tokens? (pieces : List Text) : Option (List Text) :=
  if (pieces.map trim).any (·.isEmpty) then none else some (pieces.map trim)

theorem tokens?_eq_some_iff {tokens : List Text} :
    tokens? pieces = some tokens ↔
      tokens = pieces.map trim ∧ ∀ piece ∈ pieces, trim piece ≠ [] := by
  have blank : (pieces.map trim).any (·.isEmpty) = false ↔ ∀ piece ∈ pieces, trim piece ≠ [] := by
    simp
  rw [← blank, tokens?]
  cases (pieces.map trim).any (·.isEmpty) with
  | true => simp
  | false => simp [eq_comm]

theorem Parted.groups?_eq (parted : Parted t pieces) : groups? t = tokens? pieces := by
  obtain ⟨rest, rfl, rfl⟩ := parted.exists_rest
  rfl

theorem groups?_of_start (start : ∀ rest, t ≠ '#' :: rest) : groups? t = none := by
  unfold groups?
  split
  · exact absurd rfl (start _)
  · rfl

theorem groups?_eq_bind_read? (t : Text) : groups? t = (read? t).bind tokens? := by
  cases found : read? t with
  | some pieces => exact (read?_eq_some_iff.mp found).groups?_eq
  | none =>
      refine groups?_of_start fun rest start => ?_
      have read := read?_eq_some_iff.mpr (parted_splitWhere rest)
      rw [start, read] at found
      cases found

/-! ## Lines -/

/-- A token as it stands in a line: `#` in front of it, and perhaps blanks behind. -/
structure Hashed where
  token : Text
  behind : Text
  some_ : token ≠ []
  trimmed : trim token = token
  single : '#' ∉ token
  blank : ∀ c ∈ behind, isBlank c = true

def Hashed.spell (group : Hashed) : Text :=
  '#' :: group.token ++ group.behind

theorem Hashed.trim_eq (group : Hashed) : trim (group.token ++ group.behind) = group.token := by
  rw [trim_append_blanks group.blank, group.trimmed]

theorem Hashed.apart (group : Hashed) : '#' ∉ group.token ++ group.behind := by
  rintro hash
  rcases List.mem_append.mp hash with within | behind
  · exact group.single within
  · exact absurd (group.blank '#' behind) (by decide)

/-- What is trimmed off a line of groups stands in front of the first and behind the last token. -/
theorem parted_spell {lead : Text} (blank : ∀ c ∈ lead, isBlank c = true) (front : List Hashed)
    (last : Hashed) :
    Parted (trim (lead ++ (front ++ [last]).flatMap Hashed.spell))
      (front.map (fun group => group.token ++ group.behind) ++ [last.token]) := by
  refine ⟨by simp, ?_, ?_⟩
  · have starts : trimStart (front.flatMap Hashed.spell ++ '#' :: last.token) =
        front.flatMap Hashed.spell ++ '#' :: last.token := by
      cases front <;> rfl
    have ends : trimEnd (front.flatMap Hashed.spell ++ '#' :: last.token) =
        front.flatMap Hashed.spell ++ '#' :: last.token := by
      rw [trimEnd_append_cons (by decide), trimEnd_of_trim last.trimmed]
    calc trim (lead ++ (front ++ [last]).flatMap Hashed.spell)
        = trim ((front ++ [last]).flatMap Hashed.spell) := by
          rw [trim, trimStart_blanks blank, ← trim]
      _ = trim (front.flatMap Hashed.spell ++ '#' :: last.token ++ last.behind) := by
          simp [Hashed.spell]
      _ = front.flatMap Hashed.spell ++ '#' :: last.token := by
          rw [trim_append_blanks last.blank, trim, starts, ends]
      _ = (front.map (fun group => group.token ++ group.behind) ++ [last.token]).flatMap
          ('#' :: ·) := by
          rw [List.flatMap_append, List.flatMap_map, List.flatMap_singleton]
          rfl
  · intro piece member
    rcases List.mem_append.mp member with inner | ends
    · obtain ⟨group, -, rfl⟩ := List.mem_map.mp inner
      exact group.apart
    · obtain rfl := List.mem_singleton.mp ends
      exact last.single

theorem line?_eq_some_iff {line : Text} {tokens : List Text} :
    line? line = some tokens ↔
      ∃ pieces, Parted (trim line) pieces ∧ tokens = pieces.map trim ∧
        ∀ piece ∈ pieces, trim piece ≠ [] := by
  rw [line?, groups?_eq_bind_read?, Option.bind_eq_some_iff]
  simp only [read?_eq_some_iff, tokens?_eq_some_iff]

theorem line?_spell {lead : Text} (blank : ∀ c ∈ lead, isBlank c = true) {groups : List Hashed}
    (some_ : groups ≠ []) :
    line? (lead ++ groups.flatMap Hashed.spell) = some (groups.map Hashed.token) := by
  obtain ⟨front, last, rfl⟩ := (List.eq_nil_or_concat groups).resolve_left some_
  rw [List.concat_eq_append]
  have tokens : (front.map (fun group => group.token ++ group.behind) ++ [last.token]).map trim =
      (front ++ [last]).map Hashed.token := by
    simp [Hashed.trim_eq, last.trimmed]
  refine line?_eq_some_iff.mpr ⟨_, parted_spell blank front last, tokens.symm, ?_⟩
  intro piece member none_
  have token : trim piece ∈ (front ++ [last]).map Hashed.token :=
    tokens ▸ List.mem_map_of_mem member
  obtain ⟨group, -, same⟩ := List.mem_map.mp token
  exact group.some_ (same.trans none_)

theorem line?_of_blank {line piece : Text} (parted : Parted (trim line) pieces)
    (member : piece ∈ pieces) (blank : ∀ c ∈ piece, isBlank c = true) : line? line = none := by
  rw [Option.eq_none_iff_forall_ne_some]
  intro tokens found
  obtain ⟨others, again, -, some_⟩ := line?_eq_some_iff.mp found
  obtain rfl := parted.unique again
  exact some_ piece member (trim_of_blanks blank)

/-- **Tokens that are written as a line of tags are read back, and nothing else is read.** Any
blanks, or none, may stand in front of the first group and behind each of them. A line is read by
taking groups off its trimmed text as long as there is one, with nothing left behind the last; so it
has tokens just if that text is made of pieces behind `#` characters that are all more than blanks,
and these pieces, trimmed, are the tokens. One blank piece, or a text that does not begin with `#`,
and the line has none. -/
theorem line?_of_hashes :
    (∀ (lead : Text) (groups : List Hashed), (∀ c ∈ lead, isBlank c = true) → groups ≠ [] →
      line? (lead ++ groups.flatMap Hashed.spell) = some (groups.map Hashed.token)) ∧
    ∀ line : Text,
      line? line = (read? (trim line)).bind tokens? ∧
      (∀ tokens, line? line = some tokens ↔
        ∃ pieces, Parted (trim line) pieces ∧ tokens = pieces.map trim ∧
          ∀ piece ∈ pieces, trim piece ≠ []) ∧
      (∀ pieces, Parted (trim line) pieces →
        (∃ piece ∈ pieces, ∀ c ∈ piece, isBlank c = true) → line? line = none) ∧
      ((∀ rest, trim line ≠ '#' :: rest) → line? line = none) := by
  refine ⟨fun lead groups blank some_ => line?_spell blank some_, fun line => ⟨?_, ?_, ?_, ?_⟩⟩
  · exact groups?_eq_bind_read? (trim line)
  · exact fun tokens => line?_eq_some_iff
  · rintro pieces parted ⟨piece, member, blank⟩
    exact line?_of_blank parted member blank
  · exact groups?_of_start

/-- Blanks of any kind around the groups, blanks and none between them, and a group of blanks. -/
theorem line?_of_hashes_uneven :
    line? "\u2003#a b#id:x\u00A0 #c\t".toList =
        some ["a b".toList, "id:x".toList, "c".toList] ∧
      line? " #a # \u3000#b".toList = none := by
  have lead : ['\u2003'].all isBlank = true := by decide
  have gap : "\u00A0 ".toList.all isBlank = true := by decide
  have tail : ['\t'].all isBlank = true := by decide
  have piece : " \u3000".toList.all isBlank = true := by decide
  have groups := line?_of_hashes.1 ['\u2003']
    [⟨"a b".toList, [], by decide, by decide, by decide, List.forall_mem_nil _⟩,
      ⟨"id:x".toList, "\u00A0 ".toList, by decide, by decide, by decide, List.all_eq_true.mp gap⟩,
      ⟨"c".toList, ['\t'], by decide, by decide, by decide, List.all_eq_true.mp tail⟩]
    (List.all_eq_true.mp lead) (List.cons_ne_nil _ _)
  refine ⟨groups, (line?_of_hashes.2 _).2.2.1 ["a ".toList, " \u3000".toList, "b".toList] ?_ ?_⟩
  · exact ⟨by decide, by decide, by simp⟩
  · exact ⟨" \u3000".toList, by simp, List.all_eq_true.mp piece⟩

end Tag

end Beatsheet

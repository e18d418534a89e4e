/-
# Beatsheet.Proofs.Extract.Group — groups of an extraction

The members of a group are the snippets that have its ordinal. They stand together, are numbered
from zero in the order of the script, and where one of them has a count it is right
(`extractLines_groups`). Whether all have one, once all groups are closed, is another matter: a
header inside a group leaves the members before it without one (`counted_iff_uncut`).

Both are read off the ledger of the draft, which is sound; names do not matter to it.
-/
import Beatsheet.Proofs.Draft.Cut
import Beatsheet.Proofs.Extract.Names

set_option autoImplicit false

namespace Beatsheet

/-- The snippets of a group, in the order of the script. -/
def Extraction.members (e : Extraction) (group : Nat) : List (Snippet Text) :=
  e.snippets.filter (·.group == some group)

/-! ## From the ledger to the snippets -/

theorem Snippet.mark_map {ι κ : Type} (f : Snippet ι → κ) (s : Snippet ι) :
    (s.map f).mark = s.mark := rfl

/-- What the snippets of an extraction say of groups is what the ledger says. -/
theorem marks_extractLines {σ : Type} (source : IdSource σ) (state : σ) (options : Options)
    (previous : Option (List (Scene Text))) (lines : List SourceLine) :
    (extractLines source state options previous lines).extraction.snippets.map Snippet.mark =
      (Draft.upTo lines).ledger.marks := by
  obtain ⟨name, named⟩ := extractLines_scenes source state options previous lines
  rw [Draft.marks_ledger, Extraction.snippets, named, Draft.ofLines_eq, List.flatMap_map]
  simp only [Scene.snippets_map, List.map_flatMap, List.map_map, Function.comp_def,
    Snippet.mark_map]

/-- What is together in a view of a list is together in the list. -/
theorem isInfix_filter_of_map {α β : Type} {f : α → β} {p : β → Bool} {as : List α}
    (together : (as.map f).filter p <:+: as.map f) : as.filter (p ∘ f) <:+: as := by
  obtain ⟨before, after, eq⟩ := together
  obtain ⟨front, behind, rfl, eqFront, rfl⟩ := List.map_eq_append_iff.mp eq.symm
  obtain ⟨before', middle, rfl, rfl, eqMiddle⟩ := List.map_eq_append_iff.mp eqFront
  have all : middle.filter (p ∘ f) = middle := by
    rw [List.filter_eq_self]
    intro a member
    have kept := List.mem_map_of_mem (f := f) member
    rw [eqMiddle] at kept
    exact (List.mem_filter.mp kept).2
  have lengths := congrArg List.length eqMiddle
  simp only [List.filter_map, List.length_map, List.filter_append, List.length_append, all]
    at lengths
  have none_ : before'.filter (p ∘ f) = [] ∧ behind.filter (p ∘ f) = [] := by
    constructor
    all_goals
      rw [← List.length_eq_zero_iff]
      omega
  refine ⟨before', behind, ?_⟩
  simp only [List.filter_append, all, none_.1, none_.2, List.nil_append, List.append_nil]

/-! ## Members -/

/-- **The groups of a script.** A snippet has a place in a group just if it has a group; ordinals
never decrease; the members of a group stand together and are numbered 0, 1, 2 and so on; and a
count is the number of the members there are. -/
theorem extractLines_groups {σ : Type} (source : IdSource σ) (state : σ) (options : Options)
    (previous : Option (List (Scene Text))) (lines : List SourceLine) :
    let e := (extractLines source state options previous lines).extraction
    (∀ s ∈ e.snippets, s.group.isSome = s.groupIndex.isSome) ∧
      (e.snippets.filterMap (·.group)).Pairwise (· ≤ ·) ∧
      (∀ n, e.members n <:+: e.snippets) ∧
      (∀ n, (e.members n).map (·.groupIndex) =
        (List.range (e.members n).length).map some) ∧
      ∀ s ∈ e.snippets, ∀ c, s.groupCount = some c →
        ∃ n, s.group = some n ∧ c = (e.members n).length := by
  intro e
  have sound := Draft.sound_upTo lines
  have marks : e.snippets.map Snippet.mark = (Draft.upTo lines).ledger.marks :=
    marks_extractLines source state options previous lines
  have places : (Draft.upTo lines).ledger.places = e.snippets.map (·.mark.place) := by
    rw [Ledger.places, ← marks, List.map_map]
    rfl
  have placesOf : ∀ n, (Draft.upTo lines).ledger.placesOf n =
      (e.members n).map (·.mark.place) := by
    intro n
    rw [Ledger.placesOf, places, List.filter_map]
    rfl
  have length : ∀ n, ((Draft.upTo lines).ledger.placesOf n).length = (e.members n).length := by
    intro n
    rw [placesOf, List.length_map]
  refine ⟨?_, ?_, ?_, ?_, ?_⟩
  · have indexed := sound.placed.indexed
    rw [places, List.forall_mem_map] at indexed
    exact indexed
  · have sorted := sound.placed.sorted
    rw [places, List.filterMap_map] at sorted
    exact sorted
  · intro n
    have together := sound.placed.together n
    rw [Ledger.placesOf, places] at together
    exact isInfix_filter_of_map together
  · intro n
    have numbered := sound.placed.numbered n
    rw [length, placesOf, List.map_map] at numbered
    exact numbered
  · have total := sound.counted.total
    rw [← marks, List.forall_mem_map] at total
    intro s member c known
    obtain ⟨n, belongs, count⟩ := total s member c known
    exact ⟨n, belongs, count.trans (length n)⟩

/-! ## Counts -/

/-- **All members have a count just if no header has cut their group**, once the last group is
closed. -/
theorem counted_iff_uncut {σ : Type} (source : IdSource σ) (state : σ) (options : Options)
    (previous : Option (List (Scene Text))) (lines : List SourceLine)
    (shut : (Draft.upTo lines).groupDepth = none) :
    (∀ s ∈ (extractLines source state options previous lines).extraction.snippets,
        s.group.isSome = true → s.groupCount.isSome = true) ↔
      ∀ s ∈ sites lines, s.cutsGroup = false := by
  have sound := Draft.sound_upTo lines
  have marks := marks_extractLines source state options previous lines
  have here : ¬∃ s ∈ (Draft.upTo lines).here, s.mark.Open := by
    rw [← Draft.holdsMember_iff sound, Draft.holdsMember, shut]
    simp
  have away := Draft.exists_open_away_iff lines
  -- What has no count is either in the open block or left behind.
  have found : (∃ s ∈ (extractLines source state options previous lines).extraction.snippets,
      s.mark.Open) ↔ ∃ s ∈ (Draft.upTo lines).away, s.mark.Open := by
    have inMarks : ∀ {ι : Type} (ss : List (Snippet ι)),
        (∃ s ∈ ss, s.mark.Open) ↔ ∃ m ∈ ss.map Snippet.mark, m.Open := by
      intro ι ss
      simp only [List.mem_map, exists_exists_and_eq_and]
    rw [inMarks, marks, Draft.marks_ledger, Draft.snippets_close, ← inMarks]
    simp only [List.mem_append, or_and_right, exists_or, here, or_false]
  have whole := not_congr (found.trans away)
  simp only [not_exists, not_and, Bool.not_eq_true] at whole
  rw [← whole]
  refine forall₂_congr fun s _ => ?_
  simp only [Mark.Open, Snippet.mark, not_and, ← Option.isSome_iff_ne_none]

/-! ## Poles -/

/-- A stitch header between the two members of a group. -/
def cutScript : List SourceLine :=
  SourceLine.number "t.ink".toList 1 <|
    ["=== K", "#dink", "\x7b shuffle:", "- FRED: One. #id:a", "= S", "- FRED: Two. #id:b",
      "\x7d"].map String.toList

/-- A stitch header inside a group, but before its first member. -/
def uncutScript : List SourceLine :=
  SourceLine.number "t.ink".toList 1 <|
    ["=== K", "#dink", "\x7b once:", "- FRED: Hi. #id:a", "\x7d", "\x7b shuffle:", "= S",
      "- FRED: One. #id:b", "\x7b x:", "FRED: Two. #id:c", "\x7d", "\x7d"].map String.toList

/-- The second member of the cut group counts the first one too. -/
theorem extractLines_groups_of_cut :
    let e := (extractLines IdSource.numbered 0 {} none cutScript).extraction
    e.snippets.map Snippet.mark =
        [⟨⟨some 1, some 0⟩, none⟩, ⟨⟨some 1, some 1⟩, some 2⟩] ∧
      ∃ s ∈ e.snippets, s.groupCount = some 2 ∧
        ∃ n, s.group = some n ∧ 2 = (e.members n).length := by
  intro e
  have marks : e.snippets.map Snippet.mark =
      [⟨⟨some 1, some 0⟩, none⟩, ⟨⟨some 1, some 1⟩, some 2⟩] := by decide +kernel
  have known : ∃ s ∈ e.snippets, s.groupCount = some 2 := by decide +kernel
  obtain ⟨s, member, count⟩ := known
  have groups := extractLines_groups IdSource.numbered 0 {} none cutScript
  exact ⟨marks, s, member, count, groups.2.2.2.2 s member 2 count⟩

theorem counted_iff_uncut_of_uncut :
    (Draft.upTo uncutScript).groupDepth = none ∧
      ∀ s ∈ (extractLines IdSource.numbered 0 {} none uncutScript).extraction.snippets,
        s.group.isSome = true → s.groupCount.isSome = true := by
  have shut : (Draft.upTo uncutScript).groupDepth = none := by decide +kernel
  have uncut : ∀ s ∈ sites uncutScript, s.cutsGroup = false := by decide +kernel
  exact ⟨shut, (counted_iff_uncut IdSource.numbered 0 {} none uncutScript shut).mpr uncut⟩

/-- Closing a group does not give all of its members their count. -/
theorem not_always_counted :
    ¬∀ lines : List SourceLine, (Draft.upTo lines).groupDepth = none →
      ∀ s ∈ (extractLines IdSource.numbered 0 {} none lines).extraction.snippets,
        s.group.isSome = true → s.groupCount.isSome = true := by
  intro always
  have left : ∃ s ∈ (extractLines IdSource.numbered 0 {} none cutScript).extraction.snippets,
      s.group.isSome = true ∧ s.groupCount.isSome = false := by decide +kernel
  obtain ⟨s, member, belongs, uncounted⟩ := left
  have counted := always cutScript (by decide +kernel) s member belongs
  rw [uncounted] at counted
  cases counted

end Beatsheet

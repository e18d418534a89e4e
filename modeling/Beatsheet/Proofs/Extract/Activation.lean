/-
# Beatsheet.Proofs.Extract.Activation — where the annotation is on

A line finds the annotation on just if a tag line before it holds the switch, and between the two
there is no knot header or before the tag line no content (`extractLines_annotated`). Beats come
from such lines only. So a script without the switch has no scenes, whatever its headers and its
prose: no container is put away without a beat in it.
-/
import Beatsheet.Proofs.Draft.Active
import Beatsheet.Proofs.Draft.Beat
import Beatsheet.Proofs.Extract.Placement

set_option autoImplicit false

namespace Beatsheet

/-- Where a line becomes a beat, the annotation is on. -/
theorem Site.switchedOn_of_beat {s : Site} (beat : s.beat?.isSome = true) :
    SwitchedOn s.before := by
  rw [beat?, Draft.isSome_beat?] at beat
  exact (Draft.active_upTo s.before).mp (Draft.active_of_readsBeat beat).1

/-- If no line holds the switch, it is never on. -/
theorem not_switchedOn {lines : List SourceLine} (off : ∀ line ∈ lines, line.switches = false) :
    ¬SwitchedOn lines := by
  rintro ⟨before, line, behind, rfl, on, -⟩
  rw [off line (by simp)] at on
  cases on

/-- Scenes that are filled have a beat, if there is any scene. -/
theorem eq_nil_of_filled {ι : Type} {scenes : List (Scene ι)}
    (filled : ∀ s ∈ scenes, s.Filled) (silent : scenes.flatMap (·.beats) = []) : scenes = [] := by
  cases scenes with
  | nil => rfl
  | cons scene rest =>
      obtain ⟨blocks, each⟩ := filled scene (by simp)
      obtain ⟨block, inScene⟩ := List.exists_mem_of_ne_nil _ blocks
      obtain ⟨snippets, beats⟩ := each block inScene
      obtain ⟨snippet, inBlock⟩ := List.exists_mem_of_ne_nil _ snippets
      have none_ : snippet.beats = [] := by
        simp only [List.flatMap_eq_nil_iff] at silent
        refine List.flatMap_eq_nil_iff.mp (silent scene (by simp)) snippet ?_
        exact List.mem_flatMap.mpr ⟨block, inScene, inBlock⟩
      have first := beats snippet inBlock
      rw [Snippet.Filled, none_] at first
      cases first

/-- **Where the annotation is on.** A line finds the annotation on just if a tag line before it
holds the switch and either no knot header stands between the two or no content before the tag line.
The beats of an extraction come from such lines only, and without a line that holds the switch there
is no scene at all. -/
theorem extractLines_annotated {σ : Type} (source : IdSource σ) (state : σ) (options : Options)
    (previous : Option (List (Scene Text))) (lines : List SourceLine) :
    let e := (extractLines source state options previous lines).extraction
    (∀ s ∈ sites lines, s.draft.cascade.active = true ↔ SwitchedOn s.before) ∧
      (e.beats = (sites lines).filterMap Site.beat? ∧
        ∀ s ∈ sites lines, s.beat?.isSome = true → SwitchedOn s.before) ∧
      ((∀ line ∈ lines, line.switches = false) → e.scenes = []) := by
  intro e
  have beats : e.beats = (sites lines).filterMap Site.beat? :=
    beats_extractLines source state options previous lines
  refine ⟨fun s _ => Draft.active_upTo s.before, ⟨beats, fun s _ => Site.switchedOn_of_beat⟩, ?_⟩
  intro off
  have silent : e.beats = [] := by
    rw [beats, List.filterMap_eq_nil_iff]
    intro s member
    have unswitched : ¬SwitchedOn s.before := by
      refine not_switchedOn fun line before => off line ?_
      exact (prefix_of_mem_sites member).subset (List.mem_append.mpr (.inl before))
    simpa using mt Site.switchedOn_of_beat unswitched
  obtain ⟨name, named⟩ := extractLines_scenes source state options previous lines
  refine eq_nil_of_filled ?_ silent
  rw [named, List.forall_mem_map]
  intro scene member
  rw [Scene.filled_map]
  exact Draft.filled_ofLines lines scene member

/-! ## Poles -/

/-- The switch of the first knot does not reach the second, for it stands behind content. -/
def switchedOnce : List SourceLine :=
  SourceLine.ofSource "a.ink".toList "== K\n#dink\nANNA: Hi. #id:a\n== L\nBERT: Yo. #id:b".toList

/-- The same script without the switch. -/
def unswitched : List SourceLine :=
  SourceLine.ofSource "a.ink".toList "== K\n\nANNA: Hi. #id:a\n== L\nBERT: Yo. #id:b".toList

theorem extractLines_annotated_of_switchedOnce :
    (∃ s ∈ sites switchedOnce, s.line.origin.line = 3 ∧ SwitchedOn s.before) ∧
      (∃ s ∈ sites switchedOnce, s.line.origin.line = 5 ∧ ¬SwitchedOn s.before) ∧
      (extractLines IdSource.numbered 0 {} none unswitched).extraction.scenes = [] := by
  have told := (extractLines_annotated IdSource.numbered 0 {} none switchedOnce).1
  have on : ∃ s ∈ sites switchedOnce,
      s.line.origin.line = 3 ∧ s.draft.cascade.active = true := by decide +kernel
  have off : ∃ s ∈ sites switchedOnce,
      s.line.origin.line = 5 ∧ s.draft.cascade.active = false := by decide +kernel
  have silent : ∀ line ∈ unswitched, line.switches = false := by decide +kernel
  refine ⟨?_, ?_, (extractLines_annotated IdSource.numbered 0 {} none unswitched).2.2 silent⟩
  · obtain ⟨s, member, here, active⟩ := on
    exact ⟨s, member, here, (told s member).mp active⟩
  · obtain ⟨s, member, here, quiet⟩ := off
    refine ⟨s, member, here, fun switched => ?_⟩
    rw [(told s member).mpr switched] at quiet
    cases quiet

end Beatsheet

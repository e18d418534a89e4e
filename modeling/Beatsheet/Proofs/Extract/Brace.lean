/-
# Beatsheet.Proofs.Extract.Brace — the comments of the braces around a snippet

A snippet has the comments of the levels of braces that are open where its beats stand, from the
innermost level outward (`extractLines_braceComments`). The levels are those that the lines up to
the beat, its own included, have opened and not closed (`openLevels`).

Two invariants carry this: the levels of a draft are a stack, and the open snippet has what a walk
over them finds. A beat comes into the frame of the snippet that is open then.
-/
import Beatsheet.Proofs.Draft.Frame
import Beatsheet.Proofs.Draft.Level
import Beatsheet.Proofs.Extract.Placement

set_option autoImplicit false

namespace Beatsheet

/-! ## Frames of beats -/

namespace Site

/-- The frame that a beat on this line gets. -/
def frame? (s : Site) : Option Frame :=
  (s.draft.turned s.line).frame?

/-- The levels that are open on the line, once it has turned them. -/
def levels (s : Site) : List (List Text) :=
  Beatsheet.openLevels (s.before ++ [s.line])

/-- A beat comes into a snippet that has the comments of the levels that are open on its line. -/
theorem braceComments_frame? {s : Site} (beat : s.isBeat = true) :
    s.frame?.map (·.braceComments) = some s.levels.flatten := by
  have opened : (s.draft.turned s.line).opened.isSome = true := by
    rw [isBeat, ← Draft.readsBeat_turned, Draft.readsBeat, Option.any_eq_true] at beat
    obtain ⟨ways, -, reads⟩ := beat
    simp only [Draft.readsProse, Bool.and_eq_true] at reads
    exact reads.1.1.2
  obtain ⟨o, opened⟩ := Option.isSome_iff_exists.mp opened
  have braced : (s.draft.turned s.line).Braced :=
    (Draft.braced_upTo s.before).moves (Draft.moves_turned _ s.line)
  have stacked : (s.draft.turned s.line).levels.Stacked :=
    Draft.Stacked.turned (Draft.stacked_upTo s.before) s.line
  have here : (s.draft.turned s.line).levels.stack = s.levels := by
    rw [levels, ← Draft.stack_upTo, Draft.upTo_concat, Draft.levels_step]
    rfl
  rw [frame?, Draft.frame?, opened, Option.map_some, Option.map_some, Snippet.frame,
    braced o opened, stacked.comments_eq, here]

end Site

/-- The beats of a script have the frames of their lines, in the order of these. -/
theorem Draft.framed_upTo (lines : List SourceLine) :
    (upTo lines).framed.map (fun b => (b.1, some b.2)) =
      ((sites lines).filter Site.isBeat).map fun s => (s.line.origin, s.frame?) := by
  induction lines using List.reverseRecOn with
  | nil => rfl
  | append_singleton rest line ih =>
      rw [upTo_concat, framed_step, sites_concat, List.filter_append, List.map_append, ← ih]
      have here : Site.isBeat ⟨rest, line⟩ = (upTo rest).readsBeat line := rfl
      cases reads : (upTo rest).readsBeat line with
      | false => simp [here, reads]
      | true =>
          simp [here, reads]
          rfl

section Extraction

variable {σ : Type} (source : IdSource σ) (state : σ) (options : Options)
  (previous : Option (List (Scene Text))) (lines : List SourceLine)

/-- Names and what is open do not matter to what is seen of the snippets of an extraction. -/
theorem view_extractLines {α : Type} {g : Frame → List Beat → List α}
    (silent : ∀ frame, g frame [] = []) :
    (extractLines source state options previous lines).extraction.snippets.flatMap
      (Snippet.view g) = (Draft.upTo lines).view g := by
  obtain ⟨name, named⟩ := extractLines_scenes source state options previous lines
  have closed := Draft.view_close silent (Draft.upTo lines)
  rw [Draft.view, Draft.snippets, Draft.opened_close, Option.elim_none, List.append_nil] at closed
  rw [← closed, Extraction.snippets, named, Draft.ofLines_eq, List.flatMap_map]
  simp only [Scene.snippets_map, List.flatMap_assoc, List.flatMap_map, Snippet.view_map]

theorem framed_extractLines :
    (extractLines source state options previous lines).extraction.snippets.flatMap
      Snippet.framed = (Draft.upTo lines).framed :=
  view_extractLines source state options previous lines Draft.framing_nil

/-- Every snippet of an extraction has the origin of its first beat. -/
theorem filled_extractLines :
    ∀ s ∈ (extractLines source state options previous lines).extraction.snippets, s.Filled := by
  obtain ⟨name, named⟩ := extractLines_scenes source state options previous lines
  intro s member
  rw [Extraction.snippets, named, List.flatMap_map] at member
  obtain ⟨scene, inDraft, inScene⟩ := List.mem_flatMap.mp member
  obtain ⟨block, inBlocks, inBlock⟩ := List.mem_flatMap.mp inScene
  have scenes := (Scene.filled_map name scene).mpr (Draft.filled_ofLines lines scene inDraft)
  exact (scenes.2 block inBlocks).2 s inBlock

/-- No snippet of an extraction is without a beat. -/
theorem beats_ne_nil :
    ∀ s ∈ (extractLines source state options previous lines).extraction.snippets,
      s.beats ≠ [] := by
  intro s member none_
  have filled := filled_extractLines source state options previous lines s member
  rw [Snippet.Filled, none_] at filled
  cases filled

end Extraction

/-! ## Extractions -/

/-- **A snippet has the comments of the braces around its beats.** After any lines the depth, the
list, the innermost place and the links of the open levels agree, the walk over them ends, and the
open snippet has the comments it finds. In an extraction no snippet is without a beat, and each
snippet has the comments of the levels that are open where its beats stand, the innermost level
first. -/
theorem extractLines_braceComments {σ : Type} (source : IdSource σ) (state : σ)
    (options : Options) (previous : Option (List (Scene Text))) (lines : List SourceLine) :
    let d := Draft.upTo lines
    let e := (extractLines source state options previous lines).extraction
    let beats := (sites lines).filter Site.isBeat
    d.levels.Stacked ∧
      (∃ comments, d.levels.comments? = some comments ∧
        ∀ o, d.opened = some o → o.snippet.braceComments = comments) ∧
      (∀ s ∈ e.snippets, s.beats ≠ []) ∧
      (e.snippets.flatMap fun s => s.beats.map fun beat => (beat.origin, s.braceComments)) =
        beats.map fun t => (t.line.origin, t.levels.flatten) := by
  intro d e beats
  have stacked : d.levels.Stacked := Draft.stacked_upTo lines
  refine ⟨stacked, ⟨_, stacked.comments?_eq, fun o opened => ?_⟩,
    beats_ne_nil source state options previous lines, ?_⟩
  · exact (Draft.braced_upTo lines o opened).trans stacked.comments_eq
  · have framed : e.snippets.flatMap Snippet.framed = d.framed :=
      framed_extractLines source state options previous lines
    have ofForest : (e.snippets.flatMap fun s => s.beats.map fun beat =>
        (beat.origin, s.braceComments)) = d.framed.map fun f => (f.1, f.2.braceComments) := by
      rw [← framed, List.map_flatMap]
      simp only [Snippet.framed, List.map_map]
      rfl
    have ofSites : beats.map (fun t => (t.line.origin, t.frame?.map (·.braceComments))) =
        beats.map fun t => (t.line.origin, some t.levels.flatten) := by
      refine List.map_congr_left fun t member => ?_
      rw [Site.braceComments_frame? (List.mem_filter.mp member).2]
    have frames := congrArg
      (List.map fun f : Origin × Option Frame => (f.1, f.2.map (·.braceComments)))
      (Draft.framed_upTo lines)
    simp only [List.map_map, Function.comp_def, Option.map_some] at frames
    have known : Function.Injective fun f : Origin × List Text => (f.1, some f.2) := by
      rintro ⟨o, c⟩ ⟨o', c'⟩ same
      simpa using same
    refine List.map_injective_iff.mpr known ?_
    rw [ofForest, List.map_map, List.map_map]
    exact frames.trans ofSites

end Beatsheet

/-
# Beatsheet.Proofs.Extract.Growth — a script that goes on

What is extracted from the first lines of a script is a beginning of what is extracted from all of
it (`extractLines_append`), if no earlier names are taken over: the draft only grows, and a snippet
that was started has its name, however many come after it. Where earlier names are taken over, a
snippet that gets more beats may choose another.
-/
import Beatsheet.Proofs.Draft.Numbered
import Beatsheet.Proofs.Extract.Names
import Beatsheet.Proofs.Identity.Issue

set_option autoImplicit false

namespace Beatsheet

namespace Extraction

/-- One extraction begins with the other: all of it is there, in its place and as it was, but the
last snippet may have got more beats, and snippets may have been told how many their group is. -/
structure ContinuedBy (e f : Extraction) : Prop where
  beats : e.beats <+: f.beats
  taggedLines : e.taggedLines <+: f.taggedLines
  diagnostics : e.diagnostics <+: f.diagnostics
  snippets : ∀ k s, e.snippets[k]? = some s →
    ∃ t, f.snippets[k]? = some t ∧ s.Extended t ∧ (k + 1 < e.snippets.length → s.Counted t)
  blocks : BlocksGrow (e.scenes.flatMap (·.blocks)) (f.scenes.flatMap (·.blocks))
  scenes : ScenesGrow e.scenes f.scenes

/-- It is enough that the forest grows. -/
theorem continuedBy_of_grows {e f : Extraction} (scenes : ScenesGrow e.scenes f.scenes)
    (taggedLines : e.taggedLines <+: f.taggedLines)
    (diagnostics : e.diagnostics <+: f.diagnostics) :
    e.ContinuedBy f := by
  have flat : ∀ g : Extraction, (g.scenes.flatMap (·.blocks)).flatMap (·.snippets) = g.snippets :=
    fun g => List.flatMap_assoc
  have snippets : SnippetsGrow e.snippets f.snippets := by
    rw [← flat, ← flat]
    exact scenes.blocks.snippets
  have beats : ∀ g : Extraction, g.snippets.flatMap (·.beats) = g.beats :=
    fun g => List.flatMap_assoc
  refine ⟨?_, taggedLines, diagnostics, fun k s => snippets.getElem?, scenes.blocks, scenes⟩
  rw [← beats, ← beats]
  exact snippets.beats

end Extraction

theorem Scene.map_congr {ι κ : Type} {s : Scene ι} {f g : Snippet ι → κ}
    (same : ∀ t ∈ s.snippets, f t = g t) : s.map f = s.map g := by
  have blocks : ∀ b ∈ s.blocks, b.map f = b.map g := by
    intro b inScene
    have snippets : ∀ t ∈ b.snippets, t.map f = t.map g := by
      intro t inBlock
      rw [Snippet.map, Snippet.map, same t (List.mem_flatMap.mpr ⟨b, inScene, inBlock⟩)]
    rw [Block.map, Block.map, List.map_congr_left snippets]
  rw [Scene.map, Scene.map, List.map_congr_left blocks]

namespace Draft

/-- Names that agree where the draft looks give the same scenes. -/
theorem named_close_congr {d : Draft} {ids ids' : List Text}
    (agree : ∀ n ∈ d.ids, ids'.getD n [] = ids.getD n []) :
    d.close.named ids' = d.close.named ids := by
  refine List.map_congr_left fun s inDraft => Scene.map_congr fun t inScene => ?_
  refine agree t.id (List.mem_map.mpr ⟨t, ?_, rfl⟩)
  exact List.mem_flatMap.mpr ⟨s, inDraft, inScene⟩

end Draft

section

variable {σ : Type} (source : IdSource σ) (state : σ) (options : Options)

/-- **The extraction of the first lines of a script is a beginning of the extraction of all.** -/
theorem extractLines_append (lines more : List SourceLine) :
    (extractLines source state options none lines).extraction.ContinuedBy
      (extractLines source state options none (lines ++ more)).extraction := by
  have grows := Draft.growsTo_upTo_append lines more
  have numbered := Draft.numbered_upTo lines
  let issued (count : Nat) : List Text := (source.issue options.uniqueIds count [] state).1
  have names : (Draft.ofLines lines).named (issued (Draft.ofLines (lines ++ more)).started) =
      (Draft.ofLines lines).named (issued (Draft.ofLines lines).started) := by
    refine Draft.named_close_congr fun n member => ?_
    rw [Draft.ofLines_eq, Draft.ofLines_eq, Draft.started_close, Draft.started_close]
    exact source.getD_issue options.uniqueIds grows.records.started [] state
      (numbered.ids n member)
  refine Extraction.continuedBy_of_grows ?_ ?_ ?_
  · show ScenesGrow ((Draft.ofLines lines).named (issued (Draft.ofLines lines).started))
      ((Draft.ofLines (lines ++ more)).named (issued (Draft.ofLines (lines ++ more)).started))
    rw [← names]
    exact grows.scenes.map fun n => (issued (Draft.ofLines (lines ++ more)).started).getD n []
  · rw [extractLines_taggedLines, extractLines_taggedLines, Draft.ofLines_eq, Draft.ofLines_eq,
      Draft.taggedLines_close, Draft.taggedLines_close]
    exact grows.records.taggedLines
  · rw [extractLines_diagnostics, extractLines_diagnostics, Draft.ofLines_eq, Draft.ofLines_eq,
      Draft.diagnostics, Draft.diagnostics, Draft.events_close, Draft.events_close]
    exact grows.records.events.filterMap Event.diagnostic?

end

end Beatsheet

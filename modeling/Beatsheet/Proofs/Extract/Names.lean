/-
# Beatsheet.Proofs.Extract.Names — names are given last

Naming changes the identifiers of snippets and nothing else, and so does reusing earlier names. So
whatever the source of identifiers and the earlier forest, the scenes of an extraction are those of
the draft under some names (`extractLines_scenes`), and what else it holds is the draft's.
-/
import Beatsheet.Extract

set_option autoImplicit false

namespace Beatsheet

section Map

variable {ι κ μ : Type}

theorem Block.map_map (f : Snippet ι → κ) (g : Snippet κ → μ) (b : Block ι) :
    (b.map f).map g = b.map fun s => g (s.map f) := by
  simp only [Block.map, List.map_map]
  rfl

theorem Scene.map_map (f : Snippet ι → κ) (g : Snippet κ → μ) (s : Scene ι) :
    (s.map f).map g = s.map fun t => g (t.map f) := by
  simp only [Scene.map, List.map_map, Function.comp_def, Block.map_map]

theorem Scene.snippets_map (f : Snippet ι → κ) (s : Scene ι) :
    (s.map f).snippets = s.snippets.map (Snippet.map f) := by
  simp only [Scene.snippets, Scene.map, Block.map, List.flatMap_map, List.map_flatMap]

end Map

section Extraction

variable {σ : Type} (source : IdSource σ) (state : σ) (options : Options)
  (previous : Option (List (Scene Text))) (lines : List SourceLine)

theorem extractLines_scenes :
    ∃ name : Snippet Nat → Text,
      (extractLines source state options previous lines).extraction.scenes =
        (Draft.ofLines lines).scenes.map (Scene.map name) := by
  cases previous with
  | none => exact ⟨_, rfl⟩
  | some previous =>
      simp only [extractLines, reconcile, Draft.named, List.map_map, Function.comp_def,
        Scene.map_map]
      exact ⟨_, rfl⟩

@[simp] theorem extractLines_taggedLines :
    (extractLines source state options previous lines).extraction.taggedLines =
      (Draft.ofLines lines).taggedLines := by
  cases previous <;> rfl

@[simp] theorem extractLines_diagnostics :
    (extractLines source state options previous lines).extraction.diagnostics =
      (Draft.ofLines lines).diagnostics := by
  cases previous <;> rfl

end Extraction

end Beatsheet

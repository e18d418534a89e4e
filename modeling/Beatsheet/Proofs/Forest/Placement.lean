/-
# Beatsheet.Proofs.Forest.Placement — where beats are

The placements of a forest say of each beat, in the order of the script, in which scene and block it
stands; scenes and blocks are told by what their headers declare. A forest is filled if no scene,
block or snippet of it is empty and each snippet has the origin of its first beat. Neither depends
on the names of the snippets (`Scene.placements_map`, `Scene.filled_map`).
-/
import Beatsheet.Forest.Basic

set_option autoImplicit false

namespace Beatsheet

/-- What the header of a scene or block declares, and where. -/
structure Heading where
  id : Text
  origin : Origin
  deriving DecidableEq, Repr

structure Placement where
  scene : Heading
  block : Heading
  origin : Origin
  deriving DecidableEq, Repr

section Views

variable {ι κ : Type}

def Scene.heading (s : Scene ι) : Heading :=
  ⟨s.id, s.origin⟩

def Block.heading (b : Block ι) : Heading :=
  ⟨b.id, b.origin⟩

def Snippet.placements (scene block : Heading) (s : Snippet ι) : List Placement :=
  s.beats.map fun beat => ⟨scene, block, beat.origin⟩

def Block.placements (scene : Heading) (b : Block ι) : List Placement :=
  b.snippets.flatMap (Snippet.placements scene b.heading)

def Scene.placements (s : Scene ι) : List Placement :=
  s.blocks.flatMap (Block.placements s.heading)

/-- A snippet has a beat, and the origin of its first one. -/
def Snippet.Filled (s : Snippet ι) : Prop :=
  s.beats.head?.map (·.origin) = some s.origin

def Block.Filled (b : Block ι) : Prop :=
  b.snippets ≠ [] ∧ ∀ s ∈ b.snippets, s.Filled

def Scene.Filled (s : Scene ι) : Prop :=
  s.blocks ≠ [] ∧ ∀ b ∈ s.blocks, b.Filled

/-- Only the beats of the snippets count. -/
theorem Block.placements_map_snippets {g : Snippet ι → Snippet ι}
    (same : ∀ s, (g s).beats = s.beats) (scene : Heading) (b : Block ι) :
    ({ b with snippets := b.snippets.map g } : Block ι).placements scene =
      b.placements scene := by
  have each : ∀ s, (g s).placements scene b.heading = s.placements scene b.heading := fun s => by
    simp only [Snippet.placements, same]
  rw [Block.placements, List.flatMap_map]
  exact congrArg b.snippets.flatMap (funext each)

/-! ## Names do not matter -/

theorem Block.placements_map (f : Snippet ι → κ) (scene : Heading) (b : Block ι) :
    (b.map f).placements scene = b.placements scene := by
  simp only [Block.placements, Block.map, List.flatMap_map]
  rfl

@[simp] theorem Scene.placements_map (f : Snippet ι → κ) (s : Scene ι) :
    (s.map f).placements = s.placements := by
  simp only [Scene.placements, Scene.map, List.flatMap_map, Block.placements_map]
  rfl

@[simp] theorem Block.filled_map (f : Snippet ι → κ) (b : Block ι) :
    (b.map f).Filled ↔ b.Filled := by
  simp only [Block.Filled, Block.map, ne_eq, List.map_eq_nil_iff, List.forall_mem_map]
  rfl

@[simp] theorem Scene.filled_map (f : Snippet ι → κ) (s : Scene ι) :
    (s.map f).Filled ↔ s.Filled := by
  simp only [Scene.Filled, Scene.map, ne_eq, List.map_eq_nil_iff, List.forall_mem_map,
    Block.filled_map]

/-- The origins of the placements are those of the beats. -/
theorem Scene.map_origin_placements (s : Scene ι) :
    s.placements.map (·.origin) = s.beats.map (·.origin) := by
  simp [Scene.placements, Block.placements, Snippet.placements, Scene.beats, Scene.snippets,
    List.map_flatMap, List.flatMap_assoc, Function.comp_def]

end Views

end Beatsheet

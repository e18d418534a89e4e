/-
# Beatsheet.Proofs.Forest.Seat — seats

The seat of a beat says which snippet of which block of which scene holds it: each is counted from
zero in what holds it, so two beats are in the same block or snippet just if their seats agree so
far. `Extraction.seated` lists all beats with their seats, in the order of the script. Seats do not
depend on the names of snippets (`seated_map`).
-/
import Beatsheet.Forest.Basic

set_option autoImplicit false

namespace Beatsheet

structure Seat where
  scene : Nat
  block : Nat
  snippet : Nat
  deriving DecidableEq, Repr

namespace Seat

/-- Whether two seats are in one block. -/
def SameBlock (p q : Seat) : Prop :=
  p.scene = q.scene ∧ p.block = q.block

/-- The order of the script. -/
def Before (p q : Seat) : Prop :=
  p.scene < q.scene ∨
    p.scene = q.scene ∧ (p.block < q.block ∨ p.block = q.block ∧ p.snippet < q.snippet)

end Seat

section Views

variable {ι κ : Type}

def Snippet.seated (seat : Seat) (s : Snippet ι) : List (Seat × Beat) :=
  s.beats.map (seat, ·)

/-- The beats of a block with their seats. -/
def Block.seated (scene block : Nat) (b : Block ι) : List (Seat × Beat) :=
  b.snippets.zipIdx.flatMap fun s => s.1.seated ⟨scene, block, s.2⟩

def Scene.seated (scene : Nat) (s : Scene ι) : List (Seat × Beat) :=
  s.blocks.zipIdx.flatMap fun b => b.1.seated scene b.2

/-- The beats of a forest with their seats. -/
def seated (scenes : List (Scene ι)) : List (Seat × Beat) :=
  scenes.zipIdx.flatMap fun s => s.1.seated s.2

/-! ## Forgetting the seats -/

theorem flatMap_fst_zipIdx {α β : Type} (f : α → List β) (as : List α) :
    as.zipIdx.flatMap (fun a => f a.1) = as.flatMap f := by
  have forgotten : as.zipIdx.map Prod.fst = as := List.zipIdx_map_fst 0 as
  calc as.zipIdx.flatMap (fun a => f a.1)
    _ = (as.zipIdx.map Prod.fst).flatMap f := by rw [List.flatMap_map]
    _ = as.flatMap f := by rw [forgotten]

theorem Snippet.map_snd_seated (seat : Seat) (s : Snippet ι) :
    (s.seated seat).map Prod.snd = s.beats := by
  simp [Snippet.seated, Function.comp_def]

theorem Block.map_snd_seated (scene block : Nat) (b : Block ι) :
    (b.seated scene block).map Prod.snd = b.snippets.flatMap (·.beats) := by
  simp only [Block.seated, List.map_flatMap, Snippet.map_snd_seated]
  exact flatMap_fst_zipIdx (·.beats) b.snippets

theorem Scene.map_snd_seated (scene : Nat) (s : Scene ι) :
    (s.seated scene).map Prod.snd = s.beats := by
  simp only [Scene.seated, List.map_flatMap, Block.map_snd_seated]
  rw [flatMap_fst_zipIdx (fun b : Block ι => b.snippets.flatMap (·.beats)) s.blocks]
  simp only [Scene.beats, Scene.snippets, List.flatMap_assoc]

/-- Without their seats the beats are in the order of the script. -/
theorem map_snd_seated (scenes : List (Scene ι)) :
    (seated scenes).map Prod.snd = scenes.flatMap Scene.beats := by
  simp only [seated, List.map_flatMap, Scene.map_snd_seated]
  exact flatMap_fst_zipIdx Scene.beats scenes

/-! ## Names do not matter -/

theorem Block.seated_map (f : Snippet ι → κ) (scene block : Nat) (b : Block ι) :
    (b.map f).seated scene block = b.seated scene block := by
  simp only [Block.seated, Block.map, List.zipIdx_map, List.flatMap_map]
  rfl

theorem Scene.seated_map (f : Snippet ι → κ) (scene : Nat) (s : Scene ι) :
    (s.map f).seated scene = s.seated scene := by
  simp only [Scene.seated, Scene.map, List.zipIdx_map, List.flatMap_map, Prod.map, id_eq,
    Block.seated_map]

theorem seated_map (f : Snippet ι → κ) (scenes : List (Scene ι)) :
    seated (scenes.map (Scene.map f)) = seated scenes := by
  simp only [seated, List.zipIdx_map, List.flatMap_map, Prod.map, id_eq, Scene.seated_map]

/-- Only the beats of the snippets count. -/
theorem Block.seated_map_snippets {g : Snippet ι → Snippet ι} (same : ∀ s, (g s).beats = s.beats)
    (scene block : Nat) (b : Block ι) :
    ({ b with snippets := b.snippets.map g } : Block ι).seated scene block =
      b.seated scene block := by
  simp only [Block.seated, List.zipIdx_map, List.flatMap_map, Prod.map, id_eq, Snippet.seated, same]

/-! ## Growing at the end -/

theorem Block.seated_concat (scene block : Nat) (b : Block ι) (s : Snippet ι) :
    ({ b with snippets := b.snippets ++ [s] } : Block ι).seated scene block =
      b.seated scene block ++ s.seated ⟨scene, block, b.snippets.length⟩ := by
  simp [Block.seated, List.zipIdx_append]

theorem Scene.seated_concat (scene : Nat) (s : Scene ι) (b : Block ι) :
    ({ s with blocks := s.blocks ++ [b] } : Scene ι).seated scene =
      s.seated scene ++ b.seated scene s.blocks.length := by
  simp [Scene.seated, List.zipIdx_append]

theorem seated_concat (scenes : List (Scene ι)) (s : Scene ι) :
    seated (scenes ++ [s]) = seated scenes ++ s.seated scenes.length := by
  simp [seated, List.zipIdx_append]

end Views

/-- The beats of an extraction with their seats, in the order of the script. -/
def Extraction.seated (e : Extraction) : List (Seat × Beat) :=
  Beatsheet.seated e.scenes

end Beatsheet

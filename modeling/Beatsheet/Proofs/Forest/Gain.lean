/-
# Beatsheet.Proofs.Forest.Gain — forests that gain a comment

Two forests may be the same but for one comment more in some of their lists of comments
(`Scene.Gains`). On its way a comment gets behind others in several steps, so the lists are compared
by how many more there are (`Gained`): these numbers add up where lists are joined
(`Gained.append`), and a list with one more at most is as it was or has the comment at one place
(`mayGain_of_gained`).
-/
import Beatsheet.Forest.Basic
import Mathlib.Data.List.Forall2

set_option autoImplicit false

namespace Beatsheet

/-! ## Lists of comments -/

/-- The second list is the first one with `n` more `x` in it. -/
inductive Gained (x : Text) : Nat → List Text → List Text → Prop
  | nil : Gained x 0 [] []
  | keep {n : Nat} {xs ys : List Text} (c : Text) :
      Gained x n xs ys → Gained x n (c :: xs) (c :: ys)
  | more {n : Nat} {xs ys : List Text} : Gained x n xs ys → Gained x (n + 1) xs (x :: ys)

/-- The second list is the first one, or that with one more `x` in it. -/
def MayGain (x : Text) (xs ys : List Text) : Prop :=
  ys = xs ∨ ∃ front back, xs = front ++ back ∧ ys = front ++ x :: back

/-- Each list of the second row is the one above it with more `x` in it, `n` in all. -/
inductive AllGained (x : Text) : Nat → List (List Text) → List (List Text) → Prop
  | nil : AllGained x 0 [] []
  | cons {m n : Nat} {xs ys : List Text} {xss yss : List (List Text)} :
      Gained x m xs ys → AllGained x n xss yss → AllGained x (m + n) (xs :: xss) (ys :: yss)

section Lists

variable {x : Text} {m n : Nat} {xs xs' ys ys' : List Text} {xss yss : List (List Text)}

theorem Gained.refl (xs : List Text) : Gained x 0 xs xs := by
  induction xs with
  | nil => exact .nil
  | cons c rest ih => exact .keep c ih

theorem Gained.append (first : Gained x m xs ys) (second : Gained x n xs' ys') :
    Gained x (m + n) (xs ++ xs') (ys ++ ys') := by
  induction first with
  | nil => simpa using second
  | keep c _ ih => exact .keep c ih
  | more _ ih => exact Nat.succ_add _ _ ▸ .more ih

theorem Gained.eq_of_zero (none_ : Gained x 0 xs ys) : ys = xs := by
  generalize zero : 0 = n at none_
  induction none_ with
  | nil => rfl
  | keep c _ ih => rw [ih zero]
  | more _ _ => cases zero

theorem mayGain_of_gained (gained : Gained x n xs ys) (once : n ≤ 1) : MayGain x xs ys := by
  induction gained with
  | nil => exact .inl rfl
  | keep c _ ih =>
      rcases ih once with rfl | ⟨front, back, rfl, rfl⟩
      · exact .inl rfl
      · exact .inr ⟨c :: front, back, rfl, rfl⟩
  | more rest _ =>
      obtain rfl := Nat.le_zero.mp (Nat.le_of_succ_le_succ once)
      obtain rfl := rest.eq_of_zero
      exact .inr ⟨[], _, rfl, rfl⟩

theorem MayGain.refl (xs : List Text) : MayGain x xs xs := .inl rfl

theorem AllGained.refl (xss : List (List Text)) : AllGained x 0 xss xss := by
  induction xss with
  | nil => exact .nil
  | cons xs rest ih => exact .cons (.refl xs) ih

theorem AllGained.flatten (gained : AllGained x n xss yss) :
    Gained x n xss.flatten yss.flatten := by
  induction gained with
  | nil => exact .nil
  | cons first _ ih => exact first.append ih

theorem AllGained.tail (gained : AllGained x n xss yss) :
    ∃ m ≤ n, AllGained x m xss.tail yss.tail := by
  cases gained with
  | nil => exact ⟨0, Nat.le_refl 0, .nil⟩
  | cons _ rest => exact ⟨_, Nat.le_add_left _ _, rest⟩

theorem AllGained.length_eq (gained : AllGained x n xss yss) : yss.length = xss.length := by
  induction gained with
  | nil => rfl
  | cons _ _ ih => rw [List.length_cons, List.length_cons, ih]

end Lists

/-! ## Forests -/

theorem isEmpty_of_forall₂ {α β : Type} {R : α → β → Prop} {as : List α} {bs : List β}
    (all : List.Forall₂ R as bs) : bs.isEmpty = as.isEmpty := by
  cases all <;> rfl

section Forests

variable {ι κ : Type}

/-- The same beat, but for one comment more at most. -/
structure Beat.Gains (x : Text) (b c : Beat) : Prop where
  same : c = { b with comments := c.comments }
  comments : MayGain x b.comments c.comments

structure Snippet.Gains (x : Text) (s t : Snippet ι) : Prop where
  id : t.id = s.id
  group : t.group = s.group
  groupIndex : t.groupIndex = s.groupIndex
  groupCount : t.groupCount = s.groupCount
  origin : t.origin = s.origin
  comments : MayGain x s.comments t.comments
  braceComments : MayGain x s.braceComments t.braceComments
  beats : List.Forall₂ (Beat.Gains x) s.beats t.beats

structure Block.Gains (x : Text) (b c : Block ι) : Prop where
  id : c.id = b.id
  origin : c.origin = b.origin
  comments : MayGain x b.comments c.comments
  snippets : List.Forall₂ (Snippet.Gains x) b.snippets c.snippets

/-- The same scene, but for one comment more at most in each list of comments. -/
structure Scene.Gains (x : Text) (s t : Scene ι) : Prop where
  id : t.id = s.id
  origin : t.origin = s.origin
  comments : MayGain x s.comments t.comments
  blocks : List.Forall₂ (Block.Gains x) s.blocks t.blocks

variable {x : Text}

theorem Beat.Gains.refl (b : Beat) : b.Gains x b := ⟨rfl, .refl _⟩

theorem Snippet.Gains.refl (s : Snippet ι) : s.Gains x s :=
  ⟨rfl, rfl, rfl, rfl, rfl, .refl _, .refl _, List.forall₂_same.mpr fun b _ => .refl b⟩

theorem Block.Gains.refl (b : Block ι) : b.Gains x b :=
  ⟨rfl, rfl, .refl _, List.forall₂_same.mpr fun s _ => .refl s⟩

theorem Scene.Gains.refl (s : Scene ι) : s.Gains x s :=
  ⟨rfl, rfl, .refl _, List.forall₂_same.mpr fun b _ => .refl b⟩

/-- A beat that gains a comment has the identifier it had. -/
theorem Snippet.Gains.ids_beats {s t : Snippet ι} (gains : s.Gains x t) :
    t.beats.map (·.id) = s.beats.map (·.id) := by
  have beats := gains.beats
  generalize s.beats = bs at beats
  generalize t.beats = cs at beats
  induction beats with
  | nil => rfl
  | cons first _ ih => rw [List.map_cons, List.map_cons, ih, first.same]

/-- Names that do not look at comments are given alike. -/
theorem Scene.Gains.map {s t : Scene ι} {f g : Snippet ι → κ} (gains : s.Gains x t)
    (agree : ∀ u v, Snippet.Gains x u v → g v = f u) : (s.map f).Gains x (t.map g) := by
  have snippet : ∀ u v : Snippet ι, u.Gains x v → (u.map f).Gains x (v.map g) :=
    fun u v gains => { gains with id := agree u v gains }
  have block : ∀ b c : Block ι, b.Gains x c → (b.map f).Gains x (c.map g) :=
    fun b c gains => { gains with snippets := List.rel_map snippet gains.snippets }
  exact { gains with blocks := List.rel_map block gains.blocks }

end Forests

end Beatsheet

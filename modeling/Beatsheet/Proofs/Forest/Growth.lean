/-
# Beatsheet.Proofs.Forest.Growth — how a forest grows

A list grows at its end: what comes to it comes behind the rest, and of what it held only the last
element may be extended (`Grows`). A forest grows at its last scene, there at the last block and
there at the last snippet, which may get more beats. One thing more may happen to any snippet of the
last block: it may be told how many its group is (`Snippet.Counted`). Scenes and blocks before the
last stay as they are.

Growth is transitive (`Grows.trans`), and a forest that grows at its tree grows as the flat list of
its blocks, its snippets and its beats too (`Grows.flatMap`, `SnippetsGrow.beats`).
-/
import Beatsheet.Forest.Basic
import Mathlib.Data.List.Forall2

set_option autoImplicit false

namespace Beatsheet

/-- The second list begins with the elements of the first: each is kept, but the last may have been
extended. -/
inductive Grows {α : Type} (Kept Extended : α → α → Prop) : List α → List α → Prop
  | nil (ys : List α) : Grows Kept Extended [] ys
  | last {x y : α} (extended : Extended x y) (ys : List α) : Grows Kept Extended [x] (y :: ys)
  | cons {x y : α} {xs ys : List α} (kept : Kept x y) (rest : Grows Kept Extended xs ys) :
      Grows Kept Extended (x :: xs) (y :: ys)

namespace Grows

variable {α β : Type} {Kept Extended : α → α → Prop} {Kept' Extended' : β → β → Prop}

theorem refl (same : ∀ x, Kept x x) (xs : List α) : Grows Kept Extended xs xs := by
  induction xs with
  | nil => exact .nil []
  | cons x xs ih => exact .cons (same x) ih

theorem append_right {xs ys : List α} (grows : Grows Kept Extended xs ys) (zs : List α) :
    Grows Kept Extended xs (ys ++ zs) := by
  induction grows with
  | nil ys => exact .nil _
  | last extended ys => exact .last extended _
  | cons kept _ ih => exact .cons kept ih

theorem append_left {as bs xs ys : List α} (kept : List.Forall₂ Kept as bs)
    (grows : Grows Kept Extended xs ys) : Grows Kept Extended (as ++ xs) (bs ++ ys) := by
  induction kept with
  | nil => exact grows
  | cons head _ ih => exact .cons head ih

theorem of_forall₂ {xs ys : List α} (kept : List.Forall₂ Kept xs ys) :
    Grows Kept Extended xs ys := by
  have rest : Grows Kept Extended [] [] := .nil []
  simpa using append_left kept rest

/-- Nothing grows into the empty list but itself. -/
theorem eq_nil {xs : List α} (grows : Grows Kept Extended xs []) : xs = [] := by
  cases grows
  rfl

/-- Growth in two stretches is growth: an element that is last for a while and kept from then on was
extended at most. -/
theorem trans {xs ys zs : List α} (first : Grows Kept Extended xs ys)
    (second : Grows Kept Extended ys zs) (keptTrans : ∀ x y z, Kept x y → Kept y z → Kept x z)
    (extendedTrans : ∀ x y z, Extended x y → Extended y z → Extended x z)
    (keepExtended : ∀ x y, Kept x y → Extended x y) :
    Grows Kept Extended xs zs := by
  induction first generalizing zs with
  | nil ys => exact .nil zs
  | last extended ys =>
      cases second with
      | last next zs => exact .last (extendedTrans _ _ _ extended next) zs
      | cons next _ => exact .last (extendedTrans _ _ _ extended (keepExtended _ _ next)) _
  | cons kept rest ih =>
      cases second with
      | last next zs =>
          cases rest with
          | nil => exact .last (extendedTrans _ _ _ (keepExtended _ _ kept) next) zs
      | cons next more => exact .cons (keptTrans _ _ _ kept next) (ih more)

theorem map {xs ys : List α} (grows : Grows Kept Extended xs ys) {f : α → β}
    (kept : ∀ x y, Kept x y → Kept' (f x) (f y))
    (extended : ∀ x y, Extended x y → Extended' (f x) (f y)) :
    Grows Kept' Extended' (xs.map f) (ys.map f) := by
  induction grows with
  | nil ys => exact .nil _
  | last ext ys => exact .last (extended _ _ ext) _
  | cons keep _ ih => exact .cons (kept _ _ keep) ih

/-- If lists of parts grow as their wholes do, so does the list of all parts. -/
theorem flatMap {xs ys : List α} (grows : Grows Kept Extended xs ys) {f : α → List β}
    (kept : ∀ x y, Kept x y → List.Forall₂ Kept' (f x) (f y))
    (extended : ∀ x y, Extended x y → Grows Kept' Extended' (f x) (f y)) :
    Grows Kept' Extended' (xs.flatMap f) (ys.flatMap f) := by
  induction grows with
  | nil ys => exact .nil _
  | last ext ys =>
      rw [List.flatMap_singleton, List.flatMap_cons]
      exact (extended _ _ ext).append_right _
  | cons keep _ ih =>
      rw [List.flatMap_cons, List.flatMap_cons]
      exact append_left (kept _ _ keep) ih

/-- Each element is in its place afterwards, extended at most, and kept unless it was the last. -/
theorem getElem? {xs ys : List α} (grows : Grows Kept Extended xs ys)
    (keepExtended : ∀ x y, Kept x y → Extended x y) {k : Nat} {x : α} (there : xs[k]? = some x) :
    ∃ y, ys[k]? = some y ∧ Extended x y ∧ (k + 1 < xs.length → Kept x y) := by
  induction grows generalizing k with
  | nil ys => simp at there
  | @last x' y extended ys =>
      cases k with
      | zero =>
          obtain rfl := Option.some.inj there
          exact ⟨y, rfl, extended, by simp⟩
      | succ k => simp at there
  | @cons x' y xs ys kept _ ih =>
      cases k with
      | zero =>
          obtain rfl := Option.some.inj there
          exact ⟨y, rfl, keepExtended _ _ kept, fun _ => kept⟩
      | succ k =>
          obtain ⟨y, after, extended, keep⟩ := ih (by simpa using there)
          exact ⟨y, by simpa using after, extended, fun more => keep (by simpa using more)⟩

/-- A last element that is only there if it is not empty may be extended. -/
theorem concat_unless (same : ∀ x, Kept x x) {emptyX emptyY : Bool} {x y : α}
    (extended : Extended x y) (stays : emptyY = true → emptyX = true) (xs : List α) :
    Grows Kept Extended (xs ++ if emptyX then [] else [x]) (xs ++ if emptyY then [] else [y]) := by
  refine append_left (List.forall₂_same.mpr fun x _ => same x) ?_
  cases emptyX with
  | true => exact .nil _
  | false =>
      cases emptyY with
      | true => exact absurd (stays rfl) Bool.false_ne_true
      | false => exact .last extended []

end Grows

/-! ## Forests -/

section Forest

variable {ι κ : Type}

/-- The same snippet, which may have been told how many its group is. -/
structure Snippet.Counted (s t : Snippet ι) : Prop where
  eq : t = { s with groupCount := t.groupCount }
  count : ∀ n, s.groupCount = some n → t.groupCount = some n

/-- The same snippet, which may have got more beats. -/
structure Snippet.Extended (s t : Snippet ι) : Prop where
  eq : t = { s with groupCount := t.groupCount, beats := t.beats }
  count : ∀ n, s.groupCount = some n → t.groupCount = some n
  beats : s.beats <+: t.beats

abbrev SnippetsGrow : List (Snippet ι) → List (Snippet ι) → Prop :=
  Grows Snippet.Counted Snippet.Extended

structure Block.Extended (b c : Block ι) : Prop where
  eq : c = { b with snippets := c.snippets }
  snippets : SnippetsGrow b.snippets c.snippets

abbrev BlocksGrow : List (Block ι) → List (Block ι) → Prop :=
  Grows Eq Block.Extended

structure Scene.Extended (s t : Scene ι) : Prop where
  eq : t = { s with blocks := t.blocks }
  blocks : BlocksGrow s.blocks t.blocks

abbrev ScenesGrow : List (Scene ι) → List (Scene ι) → Prop :=
  Grows Eq Scene.Extended

theorem Snippet.Counted.refl (s : Snippet ι) : s.Counted s :=
  ⟨rfl, fun _ known => known⟩

theorem Snippet.Counted.trans {s t u : Snippet ι} (first : s.Counted t) (second : t.Counted u) :
    s.Counted u := by
  refine ⟨?_, fun n known => second.count n (first.count n known)⟩
  rw [second.eq, first.eq]

theorem Snippet.Counted.extended {s t : Snippet ι} (counted : s.Counted t) : s.Extended t := by
  have beats : t.beats = s.beats := by rw [counted.eq]
  refine ⟨?_, counted.count, beats ▸ List.prefix_rfl⟩
  rw [beats]
  exact counted.eq

theorem Snippet.Extended.trans {s t u : Snippet ι} (first : s.Extended t) (second : t.Extended u) :
    s.Extended u := by
  refine ⟨?_, fun n known => second.count n (first.count n known), first.beats.trans second.beats⟩
  rw [second.eq, first.eq]

theorem SnippetsGrow.trans {ss ts us : List (Snippet ι)} (first : SnippetsGrow ss ts)
    (second : SnippetsGrow ts us) : SnippetsGrow ss us :=
  Grows.trans first second (fun _ _ _ => Snippet.Counted.trans)
    (fun _ _ _ => Snippet.Extended.trans) (fun _ _ => Snippet.Counted.extended)

theorem Block.Extended.refl (b : Block ι) : b.Extended b :=
  ⟨rfl, Grows.refl Snippet.Counted.refl b.snippets⟩

theorem Block.Extended.trans {b c d : Block ι} (first : b.Extended c) (second : c.Extended d) :
    b.Extended d := by
  refine ⟨?_, first.snippets.trans second.snippets⟩
  rw [second.eq, first.eq]

theorem BlocksGrow.trans {bs cs ds : List (Block ι)} (first : BlocksGrow bs cs)
    (second : BlocksGrow cs ds) : BlocksGrow bs ds :=
  Grows.trans first second (fun _ _ _ => Eq.trans) (fun _ _ _ => Block.Extended.trans)
    (fun b _ same => same ▸ Block.Extended.refl b)

theorem Scene.Extended.refl (s : Scene ι) : s.Extended s :=
  ⟨rfl, Grows.refl (fun _ => rfl) s.blocks⟩

theorem Scene.Extended.trans {s t u : Scene ι} (first : s.Extended t) (second : t.Extended u) :
    s.Extended u := by
  refine ⟨?_, first.blocks.trans second.blocks⟩
  rw [second.eq, first.eq]

theorem ScenesGrow.of_eq {ss ts : List (Scene ι)} (same : ts = ss) : ScenesGrow ss ts :=
  same ▸ Grows.refl (fun _ => rfl) ts

theorem ScenesGrow.trans {ss ts us : List (Scene ι)} (first : ScenesGrow ss ts)
    (second : ScenesGrow ts us) : ScenesGrow ss us :=
  Grows.trans first second (fun _ _ _ => Eq.trans) (fun _ _ _ => Scene.Extended.trans)
    (fun s _ same => same ▸ Scene.Extended.refl s)

/-! ## Flat views -/

theorem ScenesGrow.blocks {ss ts : List (Scene ι)} (grows : ScenesGrow ss ts) :
    BlocksGrow (ss.flatMap (·.blocks)) (ts.flatMap (·.blocks)) :=
  Grows.flatMap grows (fun _ _ same => same ▸ List.forall₂_same.mpr fun _ _ => rfl)
    (fun _ _ extended => extended.blocks)

theorem BlocksGrow.snippets {bs cs : List (Block ι)} (grows : BlocksGrow bs cs) :
    SnippetsGrow (bs.flatMap (·.snippets)) (cs.flatMap (·.snippets)) :=
  Grows.flatMap grows
    (fun _ _ same => same ▸ List.forall₂_same.mpr fun s _ => Snippet.Counted.refl s)
    (fun _ _ extended => extended.snippets)

theorem SnippetsGrow.getElem? {ss ts : List (Snippet ι)} (grows : SnippetsGrow ss ts) {k : Nat}
    {s : Snippet ι} (there : ss[k]? = some s) :
    ∃ t, ts[k]? = some t ∧ s.Extended t ∧ (k + 1 < ss.length → s.Counted t) :=
  Grows.getElem? grows (fun _ _ => Snippet.Counted.extended) there

/-- The beats of snippets that grow are a beginning of their beats afterwards. -/
theorem SnippetsGrow.beats {ss ts : List (Snippet ι)} (grows : SnippetsGrow ss ts) :
    ss.flatMap (·.beats) <+: ts.flatMap (·.beats) := by
  induction grows with
  | nil ts => exact List.nil_prefix
  | last extended ts =>
      rw [List.flatMap_singleton, List.flatMap_cons]
      exact extended.beats.trans (List.prefix_append _ _)
  | @cons s t _ _ counted _ ih =>
      have same : t.beats = s.beats := by rw [counted.eq]
      rw [List.flatMap_cons, List.flatMap_cons, same]
      exact (List.prefix_append_right_inj _).mpr ih

/-! ## Naming -/

variable (name : ι → κ)

theorem Snippet.Counted.map {s t : Snippet ι} (counted : s.Counted t) :
    (s.map fun s => name s.id).Counted (t.map fun s => name s.id) := by
  refine ⟨?_, counted.count⟩
  rw [counted.eq]
  rfl

theorem Snippet.Extended.map {s t : Snippet ι} (extended : s.Extended t) :
    (s.map fun s => name s.id).Extended (t.map fun s => name s.id) := by
  refine ⟨?_, extended.count, extended.beats⟩
  rw [extended.eq]
  rfl

theorem Block.Extended.map {b c : Block ι} (extended : b.Extended c) :
    (b.map fun s => name s.id).Extended (c.map fun s => name s.id) := by
  refine ⟨?_, Grows.map extended.snippets (fun _ _ => Snippet.Counted.map name)
    (fun _ _ => Snippet.Extended.map name)⟩
  rw [extended.eq]
  rfl

theorem Scene.Extended.map {s t : Scene ι} (extended : s.Extended t) :
    (s.map fun s => name s.id).Extended (t.map fun s => name s.id) := by
  refine ⟨?_, Grows.map extended.blocks (fun _ _ same => same ▸ rfl)
    (fun _ _ => Block.Extended.map name)⟩
  rw [extended.eq]
  rfl

/-- A forest grows in the same way under names that are given by the old ones. -/
theorem ScenesGrow.map {ss ts : List (Scene ι)} (grows : ScenesGrow ss ts) :
    ScenesGrow (ss.map (Scene.map fun s => name s.id)) (ts.map (Scene.map fun s => name s.id)) :=
  Grows.map grows (fun _ _ same => same ▸ rfl) (fun _ _ => Scene.Extended.map name)

end Forest

end Beatsheet

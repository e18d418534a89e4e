/-
# Beatsheet.Proofs.Tag.Inherit — what a beat inherits

Whether a tag is inherited is a matter of keys (`taken_iff`): a tag with a colon has its namespace
as its key, any other tag has itself. The tags that a list of offers adds are those with a new key,
and each key is new once (`adding`); the tags that are there already stay as they are.

From this the rest follows by counting keys: of the tags with one key a beat has its own or, if it
has none, the one that the nearest scope offers first (`filter_adding`), and what was inherited
once is not inherited again (`adding_eq_nil`).
-/
import Beatsheet.Proofs.Text.Trim
import Beatsheet.Tag.Cascade
import Mathlib.Data.List.Induction

set_option autoImplicit false

namespace Beatsheet

open Text

namespace Cascade

/-! ## Keys -/

/-- The key of a tag: its part up to and including the first colon, or all of a tag without one. -/
def key (tag : Text) : Text :=
  (space? tag).getD tag

theorem key_of_mem {tag : Text} (colon : ':' ∈ tag) : key tag = before ':' tag ++ [':'] := by
  simp [key, space?, colon]

theorem key_of_not_mem {tag : Text} (colon : ':' ∉ tag) : key tag = tag := by
  simp [key, space?, colon]

theorem colon_mem_key_iff (tag : Text) : ':' ∈ key tag ↔ ':' ∈ tag := by
  by_cases colon : ':' ∈ tag
  · simp [key_of_mem colon, colon]
  · rw [key_of_not_mem colon]

/-- A tag begins with a namespace just if that is its key. -/
theorem isPrefix_iff_key_eq {name : Text} (first : ':' ∉ name) (tag : Text) :
    name ++ [':'] <+: tag ↔ key tag = name ++ [':'] := by
  constructor
  · rintro ⟨rest, rfl⟩
    have start : before ':' (name ++ ([':'] ++ rest)) = name := by
      rw [before, List.takeWhile_append_of_pos (all_ne first)]
      simp
    rw [List.append_assoc, key_of_mem (by simp), start]
  · intro same
    have colon : ':' ∈ tag := by
      rw [← colon_mem_key_iff, same]
      simp
    have split := List.takeWhile_append_dropWhile (p := (· != ':')) (l := tag)
    rw [key_of_mem colon] at same
    rw [← same]
    cases behind : tag.dropWhile (· != ':') with
    | nil =>
        rw [List.dropWhile_eq_nil_iff] at behind
        exact absurd (behind ':' colon) (by simp)
    | cons c rest =>
        have stops : c = ':' := by
          have head := List.head_dropWhile_not (· != ':') (l := tag) (by simp [behind])
          simpa [behind] using head
        rw [behind, stops] at split
        exact ⟨rest, by rw [before, List.append_assoc]; exact split⟩

/-- **A tag stays out just if its key is there.** -/
theorem taken_iff (tags : List Text) (tag : Text) :
    taken tags tag = true ↔ key tag ∈ tags.map key := by
  rw [List.mem_map]
  by_cases colon : ':' ∈ tag
  · have first : ':' ∉ before ':' tag := fun member => by
      simpa using List.mem_takeWhile_imp member
    have space : space? tag = some (before ':' tag ++ [':']) := by simp [space?, colon]
    simp only [taken, space, List.any_eq_true, List.isPrefixOf_iff_prefix,
      isPrefix_iff_key_eq first, key_of_mem colon]
  · have space : space? tag = none := by simp [space?, colon]
    simp only [taken, space, List.contains_iff_mem]
    constructor
    · exact fun member => ⟨tag, member, rfl⟩
    · -- A tag with a colon has it in its key too, so it is not taken for a bare one.
      rintro ⟨other, member, same⟩
      rw [key_of_not_mem colon] at same
      have bare : ':' ∉ other := by rwa [← colon_mem_key_iff, same]
      rwa [← same, key_of_not_mem bare]

/-! ## Tags with a new key -/

/-- The offers that add a key: one that neither the tags nor an earlier offer has. -/
def adding (tags offers : List Text) : List Text :=
  (offers.zipIdx.filter fun offer =>
    key offer.1 ∉ (tags ++ offers.take offer.2).map key).map Prod.fst

theorem adding_nil (tags : List Text) : adding tags [] = [] := rfl

/-- Whether an offer adds a key is known as soon as it is made. -/
theorem adding_concat (tags offers : List Text) (tag : Text) :
    adding tags (offers ++ [tag]) =
      adding tags offers ++ if key tag ∈ (tags ++ offers).map key then [] else [tag] := by
  have earlier : ∀ offer ∈ offers.zipIdx,
      decide (key offer.1 ∉ (tags ++ (offers ++ [tag]).take offer.2).map key) =
        decide (key offer.1 ∉ (tags ++ offers.take offer.2).map key) := by
    intro offer member
    have place : offer.2 < offers.length := by
      simpa using List.snd_lt_of_mem_zipIdx member
    rw [List.take_append_of_le_length place.le]
  have last : (offers ++ [tag]).take (0 + offers.length) = offers := by simp
  rw [adding, List.zipIdx_append, List.filter_append, List.map_append,
    List.filter_congr earlier, ← adding, List.zipIdx_singleton]
  congr 1
  by_cases known : key tag ∈ (tags ++ offers).map key
  · rw [if_pos known, List.filter_cons_of_neg]
    · rfl
    · rw [decide_eq_true_eq, last]
      exact not_not_intro known
  · rw [if_neg known, List.filter_cons_of_pos]
    · rfl
    · rw [decide_eq_true_eq, last]
      exact known

/-- A key that was offered is there in the end, and no other key comes in. -/
theorem mem_keys_iff (tags offers : List Text) (k : Text) :
    k ∈ (tags ++ adding tags offers).map key ↔ k ∈ (tags ++ offers).map key := by
  induction offers using List.reverseRecOn with
  | nil => rfl
  | append_singleton offers tag ih =>
      have offered : k ∈ (tags ++ (offers ++ [tag])).map key ↔
          k ∈ (tags ++ offers).map key ∨ k = key tag := by
        rw [← List.append_assoc, List.map_append, List.mem_append]
        exact or_congr_right List.mem_singleton
      rw [offered, ← ih, adding_concat]
      by_cases known : key tag ∈ (tags ++ offers).map key
      · rw [if_pos known, List.append_nil]
        refine ⟨.inl, ?_⟩
        rintro (member | rfl)
        · exact member
        · exact ih.mpr known
      · rw [if_neg known, ← List.append_assoc, List.map_append, List.mem_append]
        exact or_congr_right List.mem_singleton

/-- **Inheriting adds the tags with a new key.** -/
theorem foldl_adopt (tags offers : List Text) :
    offers.foldl adopt tags = tags ++ adding tags offers := by
  induction offers using List.reverseRecOn with
  | nil => simp [adding_nil]
  | append_singleton offers tag ih =>
      have known := (taken_iff (tags ++ adding tags offers) tag).trans (mem_keys_iff tags offers _)
      rw [List.foldl_concat, ih, adopt, adding_concat]
      by_cases taken_ : taken (tags ++ adding tags offers) tag = true
      · rw [if_pos taken_, if_pos (known.mp taken_), List.append_nil]
      · rw [if_neg taken_, if_neg (mt known.mpr taken_), List.append_assoc]

/-- No key is added twice. -/
theorem nodup_adding (tags offers : List Text) : ((adding tags offers).map key).Nodup := by
  induction offers using List.reverseRecOn with
  | nil => exact List.nodup_nil
  | append_singleton offers tag ih =>
      rw [adding_concat]
      split
      · rwa [List.append_nil]
      · rename_i new
        rw [List.map_append, List.nodup_append]
        refine ⟨ih, List.pairwise_singleton _ _, ?_⟩
        rintro k old _ (_ | ⟨_, none_⟩) rfl
        · rw [← mem_keys_iff, List.map_append, List.mem_append] at new
          exact new (.inr old)
        · cases none_

/-- Of each key the first offer is added, unless the key is there. -/
theorem filter_adding (tags offers : List Text) (k : Text) :
    (adding tags offers).filter (key · = k) =
      if k ∈ tags.map key then [] else (offers.find? (key · = k)).toList := by
  induction offers using List.reverseRecOn with
  | nil => simp [adding_nil]
  | append_singleton offers tag ih =>
      rw [adding_concat, List.filter_append, ih, List.find?_append]
      by_cases same : key tag = k
      · subst same
        have found : (offers.find? (key · = key tag)).isSome = true ↔ key tag ∈ offers.map key := by
          simp [List.mem_map]
        by_cases own : key tag ∈ tags.map key
        · simp [own]
        · cases first : offers.find? (key · = key tag) with
          | none =>
              have new : key tag ∉ offers.map key := by
                rw [← found, first]
                exact Bool.false_ne_true
              rw [if_neg own, if_neg own, if_neg (by simp [own, new])]
              simp
          | some other =>
              have old : key tag ∈ offers.map key := by
                rw [← found, first]
                rfl
              rw [if_neg own, if_neg own, if_pos (by simp [old])]
              simp
      · have other : (if key tag ∈ (tags ++ offers).map key then [] else [tag]).filter
            (key · = k) = [] := by
          split
          · rfl
          · simp [same]
        rw [other, List.append_nil]
        simp [same]

/-- Nothing is added once all that is offered is there. -/
theorem adding_eq_nil (tags offers : List Text) :
    adding (tags ++ adding tags offers) offers = [] := by
  rw [adding, List.map_eq_nil_iff, List.filter_eq_nil_iff]
  intro offer member
  have offered : key offer.1 ∈ (tags ++ offers).map key := by
    have all := List.mem_map_of_mem (f := key) (List.fst_mem_of_mem_zipIdx member)
    simp only [List.map_append, List.mem_append]
    exact .inr all
  rw [← mem_keys_iff] at offered
  rw [decide_eq_true_eq, not_not, List.map_append, List.mem_append]
  exact .inl offered

/-- **What a beat inherits.** Its own tags stay as they are, and behind them come those of the block,
the scene and the document, in this order, that have a new key. So of the tags with one key it has
its own or, where it has none, the first one of the nearest scope that has one; no key is inherited
twice; and to inherit again changes nothing. -/
theorem apply_inherits (c : Cascade) (tags : List Text) :
    c.apply tags = tags ++ adding tags (c.block ++ c.scene ++ c.document) ∧
      (∀ k, (c.apply tags).filter (key · = k) =
        if k ∈ tags.map key then tags.filter (key · = k)
        else
          (((c.block.find? (key · = k)).or (c.scene.find? (key · = k))).or
            (c.document.find? (key · = k))).toList) ∧
      (((c.apply tags).drop tags.length).map key).Nodup ∧
      c.apply (c.apply tags) = c.apply tags := by
  have whole (tags : List Text) : c.apply tags = tags ++ adding tags c.offered :=
    foldl_adopt tags c.offered
  refine ⟨whole tags, ?nearest, ?once, ?again⟩
  case nearest =>
    intro k
    rw [whole, List.filter_append, filter_adding, offered, List.find?_append, List.find?_append]
    by_cases own : k ∈ tags.map key
    · rw [if_pos own, if_pos own, List.append_nil]
    · have none_ : tags.filter (key · = k) = [] := by
        rw [List.filter_eq_nil_iff]
        intro tag member same
        exact own (List.mem_map.mpr ⟨tag, member, by simpa using same⟩)
      rw [if_neg own, if_neg own, none_, List.nil_append]
  case once =>
    rw [whole, List.drop_left]
    exact nodup_adding tags c.offered
  case again =>
    rw [whole (c.apply tags), whole tags, adding_eq_nil, List.append_nil]

/-- The block's namespace keeps the scene's out; a bare tag is not kept out by a longer one. -/
example :
    let c : Cascade :=
      { block := ["ws:draft".toList], scene := ["ws:final".toList, "loc".toList],
        document := ["loc:in".toList, "loc".toList, "mood:sad:very".toList] }
    c.apply ["mood:glad".toList] =
      ["mood:glad".toList, "ws:draft".toList, "loc".toList, "loc:in".toList] := by
  decide

end Cascade

end Beatsheet

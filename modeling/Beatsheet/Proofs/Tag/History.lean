/-
# Beatsheet.Proofs.Tag.History — what a cascade remembers

A cascade is changed by tag lines, by content and by headers, in any order. What its scopes hold and
whether the annotation is on can be told from the operations so far, without running them
(`after_history`).

* The document holds the tags that came before all content.
* A scope below it holds the tags that came behind its last header and before content, if there was
  content before that header; otherwise the scope above was still open and took them. For a block
  only what came behind the last scene header counts.
* The annotation is on if a tag line has switched it on since the last scene header, or for the
  whole document before that header.

The proof says the same of the locks, and so of all that a cascade is (`ofHistory`), and goes by
induction on the last operation.
-/
import Beatsheet.Tag.Cascade
import Mathlib.Data.List.DropRight
import Mathlib.Data.List.Induction

set_option autoImplicit false

namespace Beatsheet

/-! ## Stretches of a list -/

section Stretches

variable {α : Type} [DecidableEq α]

/-- What comes before the first `a`; all, if there is none. -/
def beforeFirst (a : α) (as : List α) : List α :=
  as.takeWhile (· != a)

/-- What comes behind the last `a`; all, if there is none. -/
def behindLast (a : α) (as : List α) : List α :=
  as.rtakeWhile (· != a)

/-- What comes up to the last `a`, that included; nothing, if there is none. -/
def upToLast (a : α) (as : List α) : List α :=
  as.rdropWhile (· != a)

variable {a x : α} {as : List α}

theorem upToLast_append_behindLast (a : α) (as : List α) :
    upToLast a as ++ behindLast a as = as :=
  List.rdropWhile_append_rtakeWhile

@[simp] theorem behindLast_concat_self : behindLast a (as ++ [a]) = [] :=
  List.rtakeWhile_concat_neg _ _ _ (by simp)

@[simp] theorem behindLast_concat (other : x ≠ a) :
    behindLast a (as ++ [x]) = behindLast a as ++ [x] :=
  List.rtakeWhile_concat_pos _ _ _ (by simp [other])

@[simp] theorem upToLast_concat_self : upToLast a (as ++ [a]) = as ++ [a] :=
  List.rdropWhile_concat_neg _ _ _ (by simp)

@[simp] theorem upToLast_concat (other : x ≠ a) : upToLast a (as ++ [x]) = upToLast a as :=
  List.rdropWhile_concat_pos _ _ _ (by simp [other])

theorem beforeFirst_concat (a x : α) (as : List α) :
    beforeFirst a (as ++ [x]) = beforeFirst a as ++ if a ∈ as ∨ x = a then [] else [x] := by
  induction as with
  | nil => by_cases same : x = a <;> simp [beforeFirst, same]
  | cons b rest ih =>
      unfold beforeFirst at ih ⊢
      by_cases same : b = a
      · simp [same]
      · have goesOn : (b != a) = true := by simp [same]
        simp only [List.cons_append, List.takeWhile_cons, goesOn, if_true, ih]
        simp [Ne.symm same]

end Stretches

namespace Cascade

/-! ## Operations -/

/-- What happens to a cascade. To inherit tags leaves it as it is. -/
inductive Op where
  | route (tokens : List Text)
  | apply (tags : List Text)
  | content
  | scene
  | block
  deriving DecidableEq, Repr

namespace Op

/-- The tags that a scope may keep of the operation. -/
def kept : Op → List Text
  | .route tokens => Cascade.kept tokens
  | _ => []

/-- Whether the operation switches the annotation on. -/
def switches : Op → Bool
  | .route tokens => tokens.contains switch
  | _ => false

end Op

def run (c : Cascade) : Op → Cascade
  | .route tokens => c.route tokens
  | .apply _ => c
  | .content => c.markContent
  | .scene => c.beginScene
  | .block => c.beginBlock

/-- The cascade after some operations. -/
def after (ops : List Op) : Cascade :=
  ops.foldl run {}

@[simp] theorem after_concat (ops : List Op) (op : Op) :
    after (ops ++ [op]) = (after ops).run op := by
  simp [after]

/-! ## Scopes -/

/-- The tags of the operations before any content. -/
def unlocked (ops : List Op) : List Text :=
  (beforeFirst .content ops).flatMap Op.kept

/-- The tags of the operations behind the last header of this kind and before content, if there was
content before the header. -/
def heldBy (header : Op) (ops : List Op) : List Text :=
  if .content ∈ upToLast header ops then unlocked (behindLast header ops) else []

/-- Whether an operation before any content switches the annotation on. -/
def switchedOn (ops : List Op) : Bool :=
  (beforeFirst .content ops).any Op.switches

/-- Before content tags are added, and none afterwards. -/
theorem unlocked_concat (ops : List Op) (op : Op) :
    unlocked (ops ++ [op]) = unlocked ops ++ if .content ∈ ops then [] else op.kept := by
  rw [unlocked, beforeFirst_concat, List.flatMap_append, unlocked]
  by_cases locked : Op.content ∈ ops
  · simp [locked]
  · by_cases locks : op = .content
    · simp [locked, locks, Op.kept]
    · simp [locked, locks]

theorem switchedOn_concat (ops : List Op) (op : Op) :
    switchedOn (ops ++ [op]) =
      (switchedOn ops || (op.switches && !decide (.content ∈ ops))) := by
  rw [switchedOn, beforeFirst_concat, List.any_append, switchedOn]
  by_cases locked : Op.content ∈ ops
  · simp [locked]
  · by_cases locks : op = .content
    · simp [locked, locks, Op.switches]
    · simp [locked, locks]

theorem content_mem_iff (header : Op) (ops : List Op) :
    Op.content ∈ ops ↔
      Op.content ∈ upToLast header ops ∨ Op.content ∈ behindLast header ops := by
  rw [← List.mem_append, upToLast_append_behindLast]

/-- A scope takes tags as long as there was content before its header and none behind it. -/
theorem heldBy_concat {header op : Op} (other : op ≠ header) (ops : List Op) :
    heldBy header (ops ++ [op]) =
      heldBy header ops ++
        if .content ∈ ops ∧ .content ∉ behindLast header ops then op.kept else [] := by
  have parts := content_mem_iff header ops
  rw [heldBy, upToLast_concat other, behindLast_concat other, unlocked_concat, heldBy]
  by_cases above : Op.content ∈ upToLast header ops
  · by_cases here : Op.content ∈ behindLast header ops <;> simp [parts, above, here]
  · by_cases here : Op.content ∈ behindLast header ops <;> simp [parts, above, here]

/-- A header empties its scope. -/
theorem heldBy_concat_self (header : Op) (ops : List Op) :
    heldBy header (ops ++ [header]) = [] := by
  rw [heldBy, behindLast_concat_self]
  split <;> rfl

theorem heldBy_nil (header : Op) : heldBy header [] = [] := rfl

/-! ## All of a cascade -/

/-- What a cascade is after some operations, said without running them. -/
def ofHistory (ops : List Op) : Cascade where
  document := unlocked ops
  scene := heldBy .scene ops
  block := heldBy .block (behindLast .scene ops)
  documentSeen := .content ∈ ops
  sceneSeen := .content ∈ behindLast .scene ops
  blockSeen := .content ∈ behindLast .block (behindLast .scene ops)
  documentActive := switchedOn ops
  active := (behindLast .scene ops).any Op.switches || switchedOn (upToLast .scene ops)

/-- A tag line goes to the outermost scope that is not locked. -/
theorem route_ofHistory (ops : List Op) (tokens : List Text) :
    (ofHistory ops).route tokens = ofHistory (ops ++ [.route tokens]) := by
  have outside := (content_mem_iff .scene ops).mpr ∘ Or.inr
  have inside := (content_mem_iff .block (behindLast .scene ops)).mpr ∘ Or.inr
  by_cases document : Op.content ∈ ops
  · by_cases scene : Op.content ∈ behindLast .scene ops
    · by_cases block : Op.content ∈ behindLast .block (behindLast .scene ops)
      · simp [route, scope?, ofHistory, unlocked_concat, heldBy_concat, switchedOn_concat,
          Op.switches, document, scene, block, Bool.or_right_comm]
      · simp [route, scope?, extend, ofHistory, unlocked_concat, heldBy_concat, switchedOn_concat,
          Op.kept, Op.switches, document, scene, block, Bool.or_right_comm]
    · have block := mt inside scene
      simp [route, scope?, extend, ofHistory, unlocked_concat, heldBy_concat, switchedOn_concat,
        Op.kept, Op.switches, document, scene, block, Bool.or_right_comm]
  · have scene := mt outside document
    have block := mt inside scene
    simp [route, scope?, extend, ofHistory, unlocked_concat, heldBy_concat, switchedOn_concat,
      Op.kept, Op.switches, document, scene, block, Bool.or_right_comm]

theorem after_eq_ofHistory (ops : List Op) : after ops = ofHistory ops := by
  induction ops using List.reverseRecOn with
  | nil => rfl
  | append_singleton rest op ih =>
      rw [after_concat, ih]
      cases op with
      | route tokens => exact route_ofHistory rest tokens
      | apply tags =>
          simp [run, ofHistory, unlocked_concat, heldBy_concat, switchedOn_concat, Op.kept,
            Op.switches]
      | content =>
          simp [run, markContent, ofHistory, unlocked_concat, heldBy_concat, switchedOn_concat,
            Op.kept, Op.switches]
      | scene =>
          have empty : behindLast Op.block [] = [] := rfl
          simp [run, beginScene, ofHistory, unlocked_concat, heldBy_concat_self, heldBy_nil,
            switchedOn_concat, Op.kept, Op.switches, empty]
      | block =>
          simp [run, beginBlock, ofHistory, unlocked_concat, heldBy_concat, heldBy_concat_self,
            switchedOn_concat, Op.kept, Op.switches]

/-- **The scopes of a cascade and its annotation switch, told from the operations so far.** The
document holds what came before all content, the scene what came behind the last scene header and
before content, the block what came behind the last block header of this scene and before content.
The two lower ones hold it only if there was content before their header, in the case of the block
content of the same scene. -/
theorem after_history (ops : List Op) :
    let c := after ops
    let since := behindLast .scene ops
    c.document = (beforeFirst .content ops).flatMap Op.kept ∧
      c.scene =
        (if .content ∈ upToLast .scene ops then (beforeFirst .content since).flatMap Op.kept
        else []) ∧
      c.block =
        (if .content ∈ upToLast .block since then
          (beforeFirst .content (behindLast .block since)).flatMap Op.kept
        else []) ∧
      (c.active = true ↔
        (∃ op ∈ since, op.switches = true) ∨
          ∃ op ∈ beforeFirst .content (upToLast .scene ops), op.switches = true) := by
  intro c since
  have whole : c = ofHistory ops := after_eq_ofHistory ops
  refine ⟨?document, ?scene, ?block, ?active⟩
  case document => rw [whole]; rfl
  case scene => rw [whole]; rfl
  case block => rw [whole]; rfl
  case active =>
      rw [whole, ofHistory, Bool.or_eq_true, List.any_eq_true, switchedOn, List.any_eq_true]

/-- A scene header before all content leaves the document open: it takes the next tag line, and the
scene the one behind the content. -/
example :
    let ops : List Op :=
      [.scene, .route ["a".toList], .content, .scene, .route ["b".toList], .block,
        .route ["c".toList]]
    (after ops).document = ["a".toList] ∧ (after ops).scene = ["b".toList, "c".toList] ∧
      (after ops).block = [] := by
  decide

end Cascade

end Beatsheet

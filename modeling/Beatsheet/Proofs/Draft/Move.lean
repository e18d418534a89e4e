/-
# Beatsheet.Proofs.Draft.Move — moves of a draft

Whatever a line is, it changes the draft by a few of twelve moves, one after another (`Moves.step`).
What every move keeps is therefore kept by every line and, from the empty draft on, by every script
(`upTo_induction`). Moves are as coarse as the invariants need: opening a level of braces and the
boundary that comes with it are one move, for between the two a snippet is open that does not have
the comments of all levels.
-/
import Beatsheet.Draft
import Mathlib.Data.List.Induction
import Mathlib.Logic.Relation

set_option autoImplicit false

namespace Beatsheet

namespace Draft

/-- One change that a line makes to a draft. -/
inductive Move : Draft → Draft → Prop
  | emit (d : Draft) (e : Event) : Move d (d.emit e)
  | note (d : Draft) (comment : Text) : Move d (d.note comment)
  | cascade (d : Draft) (c : Cascade) : Move d { d with cascade := c }
  | merging (d : Draft) (b : Bool) : Move d { d with merging := b }
  | boundary (d : Draft) : Move d d.boundary
  | boundaryKeeping (d : Draft) : Move d d.boundaryKeeping
  | openLevel (d : Draft) (group : Bool) : Move d (d.openLevel group)
  | closeLevel (d : Draft) : Move d d.closeLevel
  | beginScene (d : Draft) (id : Text) (origin : Origin) : Move d (d.beginScene id origin)
  | beginBlock (d : Draft) (id : Text) (origin : Origin) : Move d (d.beginBlock id origin)
  | addBeat (d : Draft) (o : Opened) (beat : Beat) (opened : d.opened = some o) :
      Move d (d.addBeat o beat)
  | passBy (d : Draft) (origin : Origin) (tagged : Option Tagged) : Move d (d.passBy origin tagged)

/-- Any number of moves. -/
abbrev Moves : Draft → Draft → Prop := Relation.ReflTransGen Move

namespace Moves

theorem turn (d : Draft) (t : Turn) : Moves d (d.turn t) := by
  cases t with
  | opening group => exact .single (.openLevel d group)
  | closing => exact .single (.closeLevel d)
  | speech =>
      simp only [Draft.turn]
      split
      · exact .single (.boundaryKeeping d)
      · exact .tail (.single (.merging d false)) (.boundary _)
  | choice text =>
      exact .tail (.tail (.single (.merging d true)) (.note _ (choiceMark text))) (.boundary _)
  | gather =>
      simp only [Draft.turn]
      split
      · exact .tail (.tail (.single (.merging d false)) (.note _ mergeMark)) (.boundary _)
      · exact .single (.boundary d)
  | other => exact .tail (.single (.merging d false)) (.boundary _)

theorem takeShape (d : Draft) (line : Text) (origin : Origin) (ways : Prose) :
    Moves d (d.takeShape line origin ways) := by
  unfold Draft.takeShape
  split
  · exact .single (.passBy d origin ways.tagged)
  · rename_i shape _
    split
    · split
      · rename_i o opened
        exact .single (.addBeat d o (beatOf origin shape) opened)
      · exact .single (.passBy d origin ways.tagged)
    · split
      · exact .tail (.single (.emit d _)) (.passBy _ origin ways.tagged)
      · exact .single (.passBy d origin ways.tagged)

theorem prose (d : Draft) (line : Text) (origin : Origin) (ways : Prose) :
    Moves d (d.prose line origin ways) := by
  obtain ⟨d', complained, moves⟩ : ∃ d' : Draft,
      (if ways.straying && d.cascade.active then d.complain (.contentAfterClause line) origin
        else d) = d' ∧ Moves d d' := by
    refine ⟨_, rfl, ?_⟩
    split
    · exact .single (.emit d _)
    · exact .refl
  unfold Draft.prose
  dsimp only
  rw [complained]
  split
  · exact moves.tail (.note d' _)
  · exact moves.trans (takeShape d' line origin ways)

theorem play (d : Draft) (line : Text) (origin : Origin) (role : Role) :
    Moves d (d.play line origin role) := by
  cases role with
  | clause => exact .single (.boundary d)
  | knot id => exact .single (.beginScene d id origin)
  | stitch id => exact .single (.beginBlock d id origin)
  | comment text => exact .single (.note d text)
  | prose ways => exact prose d line origin ways

theorem take (d : Draft) (line : Text) (origin : Origin) (kind : Kind) :
    Moves d (d.take line origin kind) := by
  cases kind with
  | blank => exact .refl
  | statement => exact .refl
  | tags tokens => exact .tail (.single (.cascade d _)) (.emit _ _)
  | content t role =>
      have marked : Moves d { d with cascade := d.cascade.markContent } := .single (.cascade d _)
      cases t with
      | none => exact marked.trans (play _ line origin role)
      | some t => exact (marked.trans (turn _ t)).trans (play _ line origin role)

/-- **A line makes moves and nothing else.** -/
theorem step (d : Draft) (line : SourceLine) : Moves d (d.step line) := by
  simp only [Draft.step]
  cases (Reading.ofLine line.text).comment with
  | none => exact take d _ _ _
  | some comment => exact .head (.note d comment) (take _ _ _ _)

/-- What every move keeps is kept by any number of moves. -/
theorem keep {P : Draft → Prop} (kept : ∀ d d', Move d d' → P d → P d') {d d' : Draft}
    (moves : Moves d d') (holds : P d) : P d' := by
  induction moves with
  | refl => exact holds
  | tail _ move ih => exact kept _ _ move ih

end Moves

/-! ## Scripts -/

/-- The draft after some lines, with all that is open still open. -/
def upTo (lines : List SourceLine) : Draft :=
  lines.foldl step {}

@[simp] theorem upTo_concat (lines : List SourceLine) (line : SourceLine) :
    upTo (lines ++ [line]) = (upTo lines).step line := by
  simp [upTo]

theorem ofLines_eq (lines : List SourceLine) : ofLines lines = (upTo lines).close := rfl

/-- What the empty draft has and every move keeps, the draft of every script has. -/
theorem upTo_induction {P : Draft → Prop} (start : P {})
    (kept : ∀ d d', Move d d' → P d → P d') (lines : List SourceLine) : P (upTo lines) := by
  induction lines using List.reverseRecOn with
  | nil => exact start
  | append_singleton rest line ih =>
      rw [upTo_concat]
      exact (Moves.step _ line).keep kept ih

end Draft

end Beatsheet

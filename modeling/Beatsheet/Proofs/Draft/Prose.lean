/-
# Beatsheet.Proofs.Draft.Prose — what prose does not see

Prose looks at whether the annotation is on and at what is open, and what it does is to report, to
note, to add a beat or to pass by. So a change of drafts is hidden from prose if it leaves the
cascade and goes together with these four (`Draft.Hidden`): it does not matter then whether the
draft is changed before the prose is read or afterwards (`Hidden.prose`).

In the same way prose keeps two drafts related (`Related.prose`), whose cascades are the same and
which both have a scene open or both have none. Here prose that is no beat is kept apart, for then
nothing needs to be known of beats. Where beats and boundaries are known to keep the relation too
(`Kept`), so does all that a line does (`Kept.take`), but for the turn of the flow.
-/
import Beatsheet.Proofs.Draft.Outline

set_option autoImplicit false

namespace Beatsheet

namespace Draft

/-- A change `f` of drafts that prose does not see; what is open becomes what `g` says. -/
structure Hidden (f : Draft → Draft) (g : Opened → Opened) : Prop where
  cascade : ∀ d, (f d).cascade = d.cascade
  opened : ∀ d, (f d).opened = d.opened.map g
  complain : ∀ d c origin, (f d).complain c origin = f (d.complain c origin)
  note : ∀ d comment, (f d).note comment = f (d.note comment)
  addBeat : ∀ d o beat, (f d).addBeat (g o) beat = f (d.addBeat o beat)
  passBy : ∀ d origin tagged, (f d).passBy origin tagged = f (d.passBy origin tagged)

variable {f : Draft → Draft} {g : Opened → Opened}

theorem Hidden.takeShape (hidden : Hidden f g) (d : Draft) (line : Text) (origin : Origin)
    (ways : Prose) : (f d).takeShape line origin ways = f (d.takeShape line origin ways) := by
  have passed := hidden.passBy d origin ways.tagged
  unfold Draft.takeShape
  rw [hidden.cascade, hidden.opened]
  cases ways.shape with
  | none => exact passed
  | some shape =>
      dsimp only
      split
      · cases d.opened with
        | none => exact passed
        | some o => exact hidden.addBeat d o (beatOf origin shape)
      · cases shape with
        | speech speech =>
            dsimp only
            rw [hidden.complain]
            exact hidden.passBy _ origin ways.tagged
        | action action => exact passed

theorem Hidden.prose (hidden : Hidden f g) (d : Draft) (line : Text) (origin : Origin)
    (ways : Prose) : (f d).prose line origin ways = f (d.prose line origin ways) := by
  -- A complaint about the line comes first, and can be made on either side.
  obtain ⟨e, complained, complained'⟩ : ∃ e : Draft,
      (if ways.straying && d.cascade.active then d.complain (.contentAfterClause line) origin
        else d) = e ∧
      (if ways.straying && d.cascade.active then (f d).complain (.contentAfterClause line) origin
        else f d) = f e := by
    refine ⟨_, rfl, ?_⟩
    split
    · exact hidden.complain d _ origin
    · rfl
  unfold Draft.prose
  dsimp only
  rw [hidden.cascade, complained, complained', hidden.cascade]
  cases (if e.cascade.active = true then ways.label else none) with
  | none => exact hidden.takeShape e line origin ways
  | some label => exact hidden.note e label

/-! ## Two drafts at once -/

/-- A relation of drafts that prose does not see, as long as it is no beat. -/
structure Related (R : Draft → Draft → Prop) : Prop where
  cascade : ∀ {d e}, R d e → e.cascade = d.cascade
  opened : ∀ {d e}, R d e → e.opened.isSome = d.opened.isSome
  complain : ∀ {d e}, R d e → ∀ c origin, R (d.complain c origin) (e.complain c origin)
  note : ∀ {d e}, R d e → ∀ comment, R (d.note comment) (e.note comment)
  passBy : ∀ {d e}, R d e → ∀ origin tagged, R (d.passBy origin tagged) (e.passBy origin tagged)

section Related

variable {R : Draft → Draft → Prop} {d e : Draft} {ways : Prose}

theorem Related.takeShape (related : Related R) (holds : R d e) (line : Text) (origin : Origin)
    (unlabelled : d.cascade.active = true → ways.label = none)
    (beats : d.readsProse ways = true → ∀ o o' beat, d.opened = some o → e.opened = some o' →
      R (d.addBeat o beat) (e.addBeat o' beat)) :
    R (d.takeShape line origin ways) (e.takeShape line origin ways) := by
  have passed := related.passBy holds origin ways.tagged
  have opened := related.opened holds
  unfold Draft.takeShape
  rw [related.cascade holds]
  cases shape : ways.shape with
  | none => exact passed
  | some found =>
      dsimp only
      split
      · rename_i active
        cases was : d.opened with
        | none =>
            rw [was, Option.isSome_none, Option.isSome_eq_false_iff,
              Option.isNone_iff_eq_none] at opened
            rw [opened]
            exact passed
        | some o =>
            rw [was, Option.isSome_some] at opened
            obtain ⟨o', now⟩ := Option.isSome_iff_exists.mp opened
            have reads : d.readsProse ways = true := by
              simp [readsProse, active, was, unlabelled active, shape]
            rw [now]
            exact beats reads o o' _ was now
      · cases found with
        | speech speech => exact related.passBy (related.complain holds _ _) origin ways.tagged
        | action action => exact passed

theorem Related.prose (related : Related R) (holds : R d e) (line : Text) (origin : Origin)
    (ways : Prose)
    (beats : d.readsProse ways = true → ∀ d e, R d e → ∀ o o' beat, d.opened = some o →
      e.opened = some o' → R (d.addBeat o beat) (e.addBeat o' beat)) :
    R (d.prose line origin ways) (e.prose line origin ways) := by
  -- A complaint about the line comes first, on both sides or on none.
  obtain ⟨d', e', complained, complained', holds', cascade, opened⟩ : ∃ d' e' : Draft,
      (if ways.straying && d.cascade.active then d.complain (.contentAfterClause line) origin
        else d) = d' ∧
      (if ways.straying && d.cascade.active then e.complain (.contentAfterClause line) origin
        else e) = e' ∧ R d' e' ∧ d'.cascade = d.cascade ∧ d'.opened = d.opened := by
    refine ⟨_, _, rfl, rfl, ?_⟩
    split
    · exact ⟨related.complain holds _ origin, rfl, rfl⟩
    · exact ⟨holds, rfl, rfl⟩
  have reads : d'.readsProse ways = d.readsProse ways := by
    simp only [readsProse, cascade, opened]
  unfold Draft.prose
  dsimp only
  rw [related.cascade holds, complained, complained', related.cascade holds']
  split
  · exact related.note holds' _
  · rename_i unlabelled
    have unlabelled' : d'.cascade.active = true → ways.label = none := fun active => by
      simpa [active] using unlabelled
    refine related.takeShape holds' line origin unlabelled' ?_
    rw [reads]
    exact fun yes => beats yes d' e' holds'

end Related

/-- A relation of drafts that is kept by all that a line does, but for the turn of the flow. -/
structure Kept (R : Draft → Draft → Prop) : Prop extends Related R where
  emit : ∀ {d e}, R d e → ∀ event, R (d.emit event) (e.emit event)
  recast : ∀ {d e}, R d e → ∀ cascade, R { d with cascade } { e with cascade }
  boundary : ∀ {d e}, R d e → R d.boundary e.boundary
  beginScene : ∀ {d e}, R d e → ∀ id origin, R (d.beginScene id origin) (e.beginScene id origin)
  beginBlock : ∀ {d e}, R d e → ∀ id origin, R (d.beginBlock id origin) (e.beginBlock id origin)
  addBeat : ∀ {d e}, R d e → ∀ {o o'}, d.opened = some o → e.opened = some o' →
    ∀ beat, R (d.addBeat o beat) (e.addBeat o' beat)

section Kept

variable {R : Draft → Draft → Prop} {d e : Draft}

theorem Kept.play (kept : Kept R) (holds : R d e) (line : Text) (origin : Origin) (role : Role) :
    R (d.play line origin role) (e.play line origin role) := by
  cases role with
  | clause => exact kept.boundary holds
  | knot id => exact kept.beginScene holds id origin
  | stitch id => exact kept.beginBlock holds id origin
  | comment text => exact kept.note holds text
  | prose ways =>
      refine kept.prose holds line origin ways fun _ d e holds o o' beat opened opened' => ?_
      exact kept.addBeat holds opened opened' beat

theorem Kept.take (kept : Kept R) (holds : R d e) (line : Text) (origin : Origin) (kind : Kind)
    (turns : ∀ cascade turn, R (({ d with cascade } : Draft).turn turn)
      (({ e with cascade } : Draft).turn turn)) :
    R (d.take line origin kind) (e.take line origin kind) := by
  have cascade := kept.cascade holds
  cases kind with
  | blank | statement => exact holds
  | tags tokens =>
      simp only [Draft.take, cascade]
      exact kept.emit (kept.recast holds _) _
  | content turn role =>
      simp only [Draft.take, cascade]
      cases turn with
      | none => exact kept.play (kept.recast holds _) line origin role
      | some turn => exact kept.play (turns _ turn) line origin role

end Kept

end Draft

end Beatsheet

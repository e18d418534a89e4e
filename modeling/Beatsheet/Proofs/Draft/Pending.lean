/-
# Beatsheet.Proofs.Draft.Pending — comments that wait

The comments that wait behind some lines are what the last few of these lines have said
(`pending_upTo`): the lines behind the last one that takes or loses all that waits. Only lines that
are no content and remarks are none of these (`Site.isTransparent`). A line says the comment at its
end and then, if it is a remark, what that says; but if the remark turns the flow, what waited
before it is gone (`Site.add`).
-/
import Beatsheet.Proofs.Draft.Active
import Beatsheet.Proofs.Draft.Remark
import Mathlib.Data.List.DropRight

set_option autoImplicit false

namespace Beatsheet

namespace Draft

variable (d : Draft)

/-! ## Turning -/

@[simp] theorem pending_boundary : d.boundary.pending = [] := by
  unfold boundary
  split <;> rfl

/-- Only speech where the annotation is on leaves what waits for its own beat. -/
theorem pending_turn (turn : Turn) :
    (d.turn turn).pending =
      if turn = .speech ∧ d.cascade.active = true then d.pending else [] := by
  cases turn with
  | opening group => simp [Draft.turn, openLevel]
  | closing =>
      simp only [Draft.turn, closeLevel]
      split <;> simp [countGroup]
  | speech =>
      simp only [Draft.turn, true_and]
      split
      · rfl
      · exact pending_boundary _
  | choice text => simp [Draft.turn]
  | gather =>
      simp only [Draft.turn]
      split <;> simp
  | other => simp [Draft.turn]

theorem pending_heard (line : SourceLine) :
    (d.heard line).pending = d.pending ++ line.trailing := by
  unfold heard SourceLine.trailing
  cases line.kind
  all_goals cases (Reading.ofLine line.text).comment <;> simp [note]

theorem pending_turned (line : SourceLine) :
    (d.turned line).pending =
      if line.turn? = none ∨ (line.turn? = some .speech ∧ d.cascade.active = true) then
        d.pending ++ line.trailing
      else [] := by
  unfold turned
  cases line.turn? with
  | none => simp [pending_heard]
  | some turn =>
      simp only [Option.elim_some, pending_turn, pending_heard, active_heard, Option.some.injEq,
        reduceCtorEq, false_or]

/-- A remark that turns the flow makes what waited before it go. -/
theorem pending_turned_of_remark {line : SourceLine} {remark : Text}
    (found : d.remark? line = some remark) :
    (d.turned line).pending = if line.discards then [] else d.pending ++ line.trailing := by
  have turns := turn?_of_remark found
  have told : line.turn?.isSome = line.discards := by
    rw [turns, Turn.isSome_ofPlain?]
    rfl
  have speech : line.turn? ≠ some .speech := turns ▸ Turn.ofPlain?_ne_speech line.body
  rw [pending_turned, ← told]
  cases turn : line.turn? with
  | none => simp
  | some t => simp [turn ▸ speech]

/-! ## Playing -/

theorem pending_addBeat (o : Opened) (beat : Beat) : (d.addBeat o beat).pending = [] := by
  unfold addBeat
  dsimp only
  split <;> rfl

theorem pending_passBy (origin : Origin) (tagged : Option Tagged) :
    (d.passBy origin tagged).pending = [] := by
  unfold passBy
  cases tagged <;> rfl

theorem pending_takeShape (line : Text) (origin : Origin) (ways : Prose) :
    (d.takeShape line origin ways).pending = [] := by
  unfold takeShape
  split
  · exact pending_passBy d origin ways.tagged
  · split
    · split
      · exact pending_addBeat d _ _
      · exact pending_passBy d origin ways.tagged
    · split
      · exact pending_passBy _ origin ways.tagged
      · exact pending_passBy d origin ways.tagged

/-- Prose is noted as a label, or takes or loses all that waits. -/
theorem pending_prose (line : Text) (origin : Origin) (ways : Prose) :
    (d.prose line origin ways).pending =
      match (if d.cascade.active then ways.label else none) with
      | some label => d.pending ++ [label]
      | none => [] := by
  obtain ⟨events, ⟨label, active, labelled, noted⟩ | ⟨unlabelled, shaped⟩⟩ :=
    d.prose_cases line origin ways
  · simp [noted, note, active, labelled]
  · rw [shaped, pending_takeShape]
    cases active : d.cascade.active with
    | false => rfl
    | true => simp [unlabelled active]

theorem pending_beginScene (id : Text) (origin : Origin) :
    (d.beginScene id origin).pending = [] := rfl

theorem pending_beginBlock (id : Text) (origin : Origin) :
    (d.beginBlock id origin).pending = [] := by
  unfold beginBlock
  dsimp only
  split <;> rfl

/-- **What waits behind a line.** A line that is no content leaves what waits, a remark adds to it,
and all other lines take or lose it. -/
theorem pending_step (line : SourceLine) :
    (d.step line).pending =
      match d.remark? line with
      | some remark => (d.turned line).pending ++ [remark]
      | none => if line.isContent then [] else d.pending ++ line.trailing := by
  have turned : line.turn? = none → (d.turned line).pending = d.pending ++ line.trailing := by
    intro none_
    simp [pending_turned, none_]
  have active := d.active_turned line
  rw [step_eq]
  cases kind : line.kind with
  | blank | statement | tags tokens =>
      simpa [remark?, SourceLine.isContent, kind, take, emit] using
        turned (by rw [SourceLine.turn?, kind])
  | content turn role =>
      cases role with
      | clause => simp [remark?, SourceLine.isContent, kind, play]
      | knot id => simp [remark?, SourceLine.isContent, kind, play, pending_beginScene]
      | stitch id => simp [remark?, SourceLine.isContent, kind, play, pending_beginBlock]
      | comment text => simp [remark?, kind, play, note]
      | prose ways =>
          simp only [remark?, SourceLine.isContent, kind, play, pending_prose, active]
          cases (if d.cascade.active = true then ways.label else none) <;> rfl

end Draft

/-! ## What waits, told from the lines -/

namespace Site

/-- What the line says, if it is a remark. -/
def remark? (s : Site) : Option Text :=
  s.draft.remark? s.line

/-- Whether the line leaves what waits to the lines behind it. -/
def isTransparent (s : Site) : Bool :=
  !s.line.isContent || s.remark?.isSome

/-- What waits behind a line that leaves it. -/
def add (waiting : List Text) (s : Site) : List Text :=
  match s.remark? with
  | none => waiting ++ s.line.trailing
  | some remark =>
    (if s.line.discards then [] else waiting ++ s.line.trailing) ++ [remark]

end Site

/-- The comments that wait behind some lines: what those have added that stand behind the last line
that leaves nothing. -/
def waiting (lines : List SourceLine) : List Text :=
  ((sites lines).rtakeWhile Site.isTransparent).foldl Site.add []

theorem waiting_concat (lines : List SourceLine) (line : SourceLine) :
    waiting (lines ++ [line]) =
      if Site.isTransparent ⟨lines, line⟩ then Site.add (waiting lines) ⟨lines, line⟩ else [] := by
  rw [waiting, sites_concat]
  split
  · rename_i leaves
    rw [List.rtakeWhile_concat_pos _ _ _ leaves, List.foldl_concat, waiting]
  · rename_i takes
    rw [List.rtakeWhile_concat_neg _ _ _ takes, List.foldl_nil]

/-- **The comments that wait are what the last transparent lines have said.** -/
theorem Draft.pending_upTo (lines : List SourceLine) : (upTo lines).pending = waiting lines := by
  induction lines using List.reverseRecOn with
  | nil => rfl
  | append_singleton rest line ih =>
      rw [upTo_concat, pending_step, waiting_concat, Site.isTransparent, Site.add, ← ih]
      have here : Site.remark? ⟨rest, line⟩ = (upTo rest).remark? line := rfl
      rw [here]
      cases found : (upTo rest).remark? line with
      | none => cases line.isContent <;> simp
      | some remark => simp [pending_turned_of_remark _ found]

end Beatsheet

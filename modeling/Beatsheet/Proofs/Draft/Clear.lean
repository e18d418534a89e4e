/-
# Beatsheet.Proofs.Draft.Clear — when nothing is open

A group ends with the level of braces that it was opened with, so the open group is always within
the open levels (`Draft.within_upTo`). Where the depth is zero no group is open then, and a snippet
started has no comments of braces (`Draft.clear_upTo_iff_depth`).
-/
import Beatsheet.Proofs.Draft.Level

set_option autoImplicit false

namespace Beatsheet

namespace Draft

variable {d e : Draft}

/-! ## The depth of the group -/

/-- The open group was opened with a level that is still open. -/
def Within (d : Draft) : Prop :=
  ∀ n, d.groupDepth = some n → 0 < n ∧ n ≤ d.levels.depth

theorem Within.congr (within : d.Within) (depth : e.groupDepth = d.groupDepth)
    (levels : e.levels = d.levels) : e.Within := by
  rw [Within, depth, levels]
  exact within

@[simp] theorem groupDepth_countGroup (d : Draft) : d.countGroup.groupDepth = d.groupDepth := rfl

theorem Within.boundary (within : d.Within) : d.boundary.Within :=
  within.congr d.groupDepth_boundary d.levels_boundary

theorem Within.openLevel (within : d.Within) (group : Bool) : (d.openLevel group).Within := by
  intro n depth
  rw [levels_openLevel, Levels.depth_push]
  unfold Draft.openLevel at depth
  rw [groupDepth_boundary] at depth
  dsimp only at depth
  split at depth
  · obtain rfl := Option.some.inj depth
    exact ⟨Nat.succ_pos _, Nat.le_refl _⟩
  · obtain ⟨pos, le⟩ := within n depth
    exact ⟨pos, Nat.le_succ_of_le le⟩

/-- A group that goes on has its level left. -/
theorem Within.closeLevel (within : d.Within) : d.closeLevel.Within := by
  intro n depth
  rw [levels_closeLevel]
  unfold Draft.closeLevel at depth
  dsimp only at depth
  split at depth
  · rw [groupDepth_countGroup, groupDepth_boundary] at depth
    cases depth
  · rename_i goesOn
    rw [groupDepth_boundary] at depth
    have depth : d.groupDepth = some n := depth
    rw [depth, Option.any_some, decide_eq_true_eq, Nat.not_lt] at goesOn
    exact ⟨(within n depth).1, goesOn⟩

theorem Within.move (move : Move d e) (within : d.Within) : e.Within := by
  cases move with
  | emit event | note comment | cascade c | merging b => exact within.congr rfl rfl
  | boundary => exact within.boundary
  | boundaryKeeping =>
      have emptied : Within { d with pending := [] } := within.congr rfl rfl
      exact emptied.boundary.congr rfl rfl
  | openLevel group => exact within.openLevel group
  | closeLevel => exact within.closeLevel
  | beginScene id origin =>
      exact within.congr d.groupDepth_close (d.levels_beginScene id origin)
  | beginBlock id origin =>
      refine within.congr ?_ (d.levels_beginBlock id origin)
      unfold beginBlock
      dsimp only
      split <;> rfl
  | addBeat o beat opened =>
      exact within.congr (d.groupDepth_addBeat o beat) (d.levels_addBeat o beat)
  | passBy origin tagged =>
      have alike := d.alike_passBy origin tagged
      exact within.congr alike.groupDepth alike.levels

theorem Within.moves (moves : Moves d e) (within : d.Within) : e.Within :=
  moves.keep (fun _ _ move within => within.move move) within

theorem within_upTo (lines : List SourceLine) : (upTo lines).Within :=
  upTo_induction (fun _ depth => by cases depth) (fun _ _ move within => within.move move) lines

/-! ## Nothing open -/

/-- No level of braces and no group is open, and a snippet started now has no comments of braces. -/
structure Clear (d : Draft) : Prop where
  depth : d.levels.depth = 0
  group : d.groupDepth = none
  fresh : ∀ comments, (d.freshSnippet comments).braceComments = []

/-- The depth decides. -/
theorem clear_upTo_iff_depth (lines : List SourceLine) :
    (upTo lines).Clear ↔ (upTo lines).levels.depth = 0 := by
  constructor
  · exact fun clear => clear.depth
  · intro flat
    have stacked := stacked_upTo lines
    refine ⟨flat, ?_, fun comments => ?_⟩
    · cases depth : (upTo lines).groupDepth with
      | none => rfl
      | some n =>
          have within := within_upTo lines n depth
          omega
    · have none_ : (upTo lines).levels.opened = [] := by
        rw [← List.length_eq_zero_iff, ← stacked.depth, flat]
      rw [freshSnippet, stacked.comments_eq, Levels.stack, none_]
      rfl

end Draft

end Beatsheet

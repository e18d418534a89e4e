/-
# Beatsheet.Proofs.Draft.Level — the levels of braces are a stack

The depth, the list of levels, the place of the innermost one and the links outward say the same
thing four times over, and both operations keep them in step (`Levels.Stacked`). So the walk outward
comes to every level once and to an end, and finds their comments from the last level opened to the
first (`Levels.comments?_eq`). In a draft the levels are stacked whatever the script
(`stacked_upTo`), and what they hold can be told from the turns of its lines (`stack_upTo`): an
opening line adds a level with what is pending, a closing line takes the last one away.

The open snippet has the comments of the levels that are open (`braced_upTo`), for whatever changes
the levels starts a snippet, and whatever starts a snippet asks the levels.
-/
import Beatsheet.Proofs.Draft.Turned
import Mathlib.Data.Nat.PSub

set_option autoImplicit false

namespace Beatsheet

namespace Levels

/-- The depth counts the levels, the innermost level is the last, and the level around each one is
the one before it. -/
structure Stacked (l : Levels) : Prop where
  depth : l.depth = l.opened.length
  top : l.top = l.opened.length.ppred
  outer : ∀ (i : Nat) (level : Level), l.opened[i]? = some level → level.outer = i.ppred

/-- The comments of each level, the one opened last first. -/
def stack (l : Levels) : List (List Text) :=
  (l.opened.map (·.comments)).reverse

variable {l : Levels}

theorem stacked_empty : Stacked {} :=
  ⟨rfl, rfl, by simp⟩

/-- Where the depth is zero nothing is left. -/
theorem Stacked.eq_empty (stacked : l.Stacked) (flat : l.depth = 0) : l = {} := by
  obtain ⟨depth, top, -⟩ := stacked
  cases l with
  | mk opened top' depth' =>
      simp only at depth top flat
      subst flat
      obtain rfl := List.length_eq_zero_iff.mp depth.symm
      rw [top]
      rfl

theorem Stacked.push (stacked : l.Stacked) (comments : List Text) : (l.push comments).Stacked := by
  refine ⟨by simp [Levels.push, stacked.depth], by simp [Levels.push], ?_⟩
  intro i level there
  rcases Nat.lt_trichotomy i l.opened.length with old | rfl | beyond
  · rw [Levels.push, List.getElem?_append_left old] at there
    exact stacked.outer i level there
  · rw [Levels.push, List.getElem?_append_right (Nat.le_refl _), Nat.sub_self] at there
    obtain rfl := Option.some.inj there
    exact stacked.top
  · rw [Levels.push, List.getElem?_eq_none (by simp; omega)] at there
    cases there

theorem Stacked.pop (stacked : l.Stacked) : l.pop.Stacked := by
  have depth := stacked.depth
  unfold Levels.pop
  dsimp only
  split
  · rename_i none_
    have empty : l.opened.length = 0 := by simpa [stacked.top] using none_
    refine ⟨?_, stacked.top, stacked.outer⟩
    simp only
    omega
  · rename_i i innermost
    have length : l.opened.length = i + 1 := by
      rw [stacked.top, Nat.ppred_eq_some] at innermost
      exact innermost.symm
    have kept : (l.opened.take i).length = i := by simp [length]
    refine ⟨by simp only [kept]; omega, ?_, ?_⟩
    · have last := List.getElem?_eq_getElem (l := l.opened) (i := i) (by omega)
      simp only [kept, last, Option.bind_some]
      exact stacked.outer i _ last
    · intro j level there
      refine stacked.outer j level ?_
      simp only [List.getElem?_take] at there
      split at there
      · exact there
      · cases there

theorem depth_push (l : Levels) (comments : List Text) : (l.push comments).depth = l.depth + 1 := rfl

theorem depth_pop (l : Levels) : l.pop.depth = l.depth - 1 := by
  unfold pop
  dsimp only
  split <;> rfl

theorem stack_push (l : Levels) (comments : List Text) :
    (l.push comments).stack = comments :: l.stack := by
  simp [stack, push]

theorem stack_pop (stacked : l.Stacked) : l.pop.stack = l.stack.tail := by
  unfold pop
  dsimp only
  split
  · rename_i none_
    have empty : l.opened.length = 0 := by simpa [stacked.top] using none_
    simp [stack, List.length_eq_zero_iff.mp empty]
  · rename_i i innermost
    have length : i = l.opened.length - 1 := by
      rw [stacked.top, Nat.ppred_eq_some] at innermost
      omega
    rw [stack, stack, List.tail_reverse, ← List.map_dropLast, List.dropLast_eq_take, length]

/-- A walk from the level before a place outward comes to all levels before it. -/
theorem Stacked.walk?_eq (stacked : l.Stacked) {i : Nat} (inside : i ≤ l.opened.length) :
    walk? l.opened i i.ppred = some ((l.opened.take i).map (·.comments)).reverse.flatten := by
  induction i with
  | zero => rfl
  | succ i ih =>
      have there := List.getElem?_eq_getElem (l := l.opened) (i := i) inside
      have outward := ih (Nat.le_of_succ_le inside)
      rw [← stacked.outer i _ there] at outward
      rw [Nat.ppred_succ, walk?, there, Option.bind_eq_bind, Option.bind_some, outward,
        List.take_add_one, there, List.map_append, List.reverse_append]
      rfl

/-- **The walk outward ends, and finds the comments of all levels.** -/
theorem Stacked.comments?_eq (stacked : l.Stacked) : l.comments? = some l.stack.flatten := by
  have whole := stacked.walk?_eq (Nat.le_refl l.opened.length)
  rw [comments?, stacked.top, whole, List.take_length, stack]

theorem Stacked.comments_eq (stacked : l.Stacked) : l.comments = l.stack.flatten := by
  rw [comments, stacked.comments?_eq, Option.getD_some]

end Levels

/-! ## What turns the levels -/

namespace Draft

variable {d e : Draft}

@[simp] theorem levels_boundary (d : Draft) : d.boundary.levels = d.levels := by
  unfold boundary
  split <;> rfl

@[simp] theorem levels_countGroup (d : Draft) : d.countGroup.levels = d.levels := rfl

@[simp] theorem levels_openLevel (d : Draft) (group : Bool) :
    (d.openLevel group).levels = d.levels.push d.pending := by
  unfold openLevel
  rw [levels_boundary]
  dsimp only
  split <;> rfl

@[simp] theorem levels_closeLevel (d : Draft) : d.closeLevel.levels = d.levels.pop := by
  unfold closeLevel
  dsimp only
  split
  · rw [levels_countGroup, levels_boundary]
  · rw [levels_boundary]

@[simp] theorem levels_beginScene (d : Draft) (id : Text) (origin : Origin) :
    (d.beginScene id origin).levels = d.levels := by
  have closed : d.close.levels = d.levels := by
    unfold close
    split <;> rfl
  exact closed

@[simp] theorem levels_beginBlock (d : Draft) (id : Text) (origin : Origin) :
    (d.beginBlock id origin).levels = d.levels := by
  unfold beginBlock
  dsimp only
  split <;> rfl

@[simp] theorem levels_addBeat (d : Draft) (o : Opened) (beat : Beat) :
    (d.addBeat o beat).levels = d.levels := by
  unfold addBeat
  dsimp only
  split <;> rfl

/-- Only braces turn the levels. -/
theorem levels_turn (d : Draft) (turn : Turn) :
    (d.turn turn).levels =
      match turn with
      | .opening _ => d.levels.push d.pending
      | .closing => d.levels.pop
      | _ => d.levels := by
  cases turn with
  | opening group => exact d.levels_openLevel group
  | closing => exact d.levels_closeLevel
  | speech =>
      simp only [Draft.turn]
      split
      · exact levels_boundary { d with pending := [] }
      · rw [levels_boundary]
  | choice text => exact levels_boundary _
  | gather =>
      simp only [Draft.turn]
      split
      · exact levels_boundary _
      · exact levels_boundary d
  | other => exact levels_boundary _

theorem levels_turned (d : Draft) (line : SourceLine) :
    (d.turned line).levels =
      match line.turn? with
      | some (.opening _) => d.levels.push (d.heard line).pending
      | some .closing => d.levels.pop
      | _ => d.levels := by
  have heard := (d.alike_heard line).levels
  unfold turned
  cases line.turn? with
  | none => exact heard
  | some turn => rw [Option.elim_some, levels_turn, heard]; cases turn <;> rfl

/-- What a line plays leaves the levels alone. -/
theorem levels_step (d : Draft) (line : SourceLine) :
    (d.step line).levels = (d.turned line).levels := by
  have plays := d.plays_step line
  generalize d.step line = after at plays
  cases plays with
  | clause _ _ _ _ => exact levels_boundary _
  | knot heading _ _ => exact levels_beginScene _ _ _
  | stitch heading _ _ _ => exact levels_beginBlock _ _ _
  | beat e o beat alike _ _ _ _ _ => rw [levels_addBeat, alike.levels]
  | rest e alike _ _ _ => exact alike.levels

theorem Stacked.turned (stacked : d.levels.Stacked) (line : SourceLine) :
    (d.turned line).levels.Stacked := by
  rw [levels_turned]
  split
  · exact stacked.push _
  · exact stacked.pop
  · exact stacked

/-- **The levels of every script are a stack.** -/
theorem stacked_upTo (lines : List SourceLine) : (upTo lines).levels.Stacked := by
  induction lines using List.reverseRecOn with
  | nil => exact Levels.stacked_empty
  | append_singleton rest line ih =>
      rw [upTo_concat, levels_step]
      exact Stacked.turned ih line

end Draft

/-! ## The levels that are open -/

/-- What a line does to the open levels, each told by its comments: an opening line opens one inside
the others, with the comments that are pending then; a closing line closes the innermost one, if
there is one. -/
def Site.openLevels (s : Site) (levels : List (List Text)) : List (List Text) :=
  match s.line.turn? with
  | some (.opening _) => (s.draft.heard s.line).pending :: levels
  | some .closing => levels.tail
  | _ => levels

/-- The levels that are open behind some lines, the innermost first. -/
def openLevels (lines : List SourceLine) : List (List Text) :=
  (sites lines).foldl (fun levels s => s.openLevels levels) []

theorem openLevels_concat (lines : List SourceLine) (line : SourceLine) :
    openLevels (lines ++ [line]) = Site.openLevels ⟨lines, line⟩ (openLevels lines) := by
  simp [openLevels]

namespace Draft

/-- **The stack of a script holds the levels that its lines have opened and not closed.** -/
theorem stack_upTo (lines : List SourceLine) : (upTo lines).levels.stack = openLevels lines := by
  induction lines using List.reverseRecOn with
  | nil => rfl
  | append_singleton rest line ih =>
      rw [upTo_concat, levels_step, levels_turned, openLevels_concat, Site.openLevels, ← ih]
      dsimp only
      split
      · exact Levels.stack_push _ _
      · exact Levels.stack_pop (stacked_upTo rest)
      · rfl

/-! ## The comments of the open snippet -/

variable {d e : Draft}

/-- The open snippet has the comments of the open levels. -/
def Braced (d : Draft) : Prop :=
  ∀ o, d.opened = some o → o.snippet.braceComments = d.levels.comments

theorem Braced.congr (braced : d.Braced) (opened : e.opened = d.opened)
    (levels : e.levels = d.levels) : e.Braced := by
  rw [Braced, opened, levels]
  exact braced

theorem braced_boundary (d : Draft) : d.boundary.Braced := by
  intro o after
  cases opened : d.opened with
  | none => simp [boundary, opened] at after
  | some o' =>
      rw [opened_boundary opened] at after
      obtain rfl := Option.some.inj after
      rw [levels_boundary]
      rfl

theorem Braced.countGroup (braced : d.Braced) : d.countGroup.Braced := by
  intro o after
  rw [opened_countGroup, Option.map_eq_some_iff] at after
  obtain ⟨o', opened, rfl⟩ := after
  exact braced o' opened

theorem braced_beginBlock (d : Draft) (id : Text) (origin : Origin) :
    (d.beginBlock id origin).Braced := by
  intro o after
  rw [levels_beginBlock]
  unfold beginBlock at after
  cases opened : d.opened with
  | none => simp [emit, opened] at after
  | some o' =>
      simp only [emit, opened, Option.some.injEq] at after
      subst after
      rfl

theorem braced_beginScene (d : Draft) (id : Text) (origin : Origin) :
    (d.beginScene id origin).Braced := by
  intro o after
  obtain rfl := Option.some.inj after
  rfl

theorem Braced.addBeat {o : Opened} (braced : d.Braced) (opened : d.opened = some o)
    (beat : Beat) : (d.addBeat o beat).Braced := by
  obtain ⟨added, -, after⟩ := d.opened_addBeat o beat
  intro o' same
  obtain rfl := Option.some.inj (after.symm.trans same)
  rw [levels_addBeat]
  exact braced o opened

theorem Braced.move (move : Move d e) (braced : d.Braced) : e.Braced := by
  cases move with
  | emit event | note comment | cascade c | merging b => exact braced.congr rfl rfl
  | boundary => exact braced_boundary d
  | boundaryKeeping => exact (braced_boundary { d with pending := [] }).congr rfl rfl
  | openLevel group => exact braced_boundary _
  | closeLevel =>
      unfold Draft.closeLevel
      dsimp only
      split
      · exact (braced_boundary _).countGroup
      · exact braced_boundary _
  | beginScene id origin => exact braced_beginScene d id origin
  | beginBlock id origin => exact braced_beginBlock d id origin
  | addBeat o beat opened => exact braced.addBeat opened beat
  | passBy origin tagged =>
      have alike := d.alike_passBy origin tagged
      exact braced.congr alike.opened alike.levels

theorem Braced.moves (moves : Moves d e) (braced : d.Braced) : e.Braced :=
  moves.keep (fun _ _ move braced => braced.move move) braced

/-- **In every draft of a script the open snippet has the comments of the open levels.** -/
theorem braced_upTo (lines : List SourceLine) : (upTo lines).Braced :=
  upTo_induction (fun _ opened => by cases opened) (fun _ _ move braced => braced.move move) lines

end Draft

end Beatsheet

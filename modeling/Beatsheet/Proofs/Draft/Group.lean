/-
# Beatsheet.Proofs.Draft.Group — groups of alternatives

A snippet belongs to a group from its first beat on, and to the group that is open then; since a
group begins and ends at a boundary, the open snippet belongs to the open group as long as it lives.
No snippet belongs to a group that is yet to come, and the snippets of the open group have not been
told how many they are. `Grouped` puts this into one invariant, which every move keeps
(`Grouped.move`).
-/
import Beatsheet.Proofs.Draft.Basic
import Beatsheet.Proofs.Draft.Move

set_option autoImplicit false

namespace Beatsheet

/-- What a block says of groups when the last one has the number `groups`, and `ongoing` says
whether that group is still open. -/
structure Block.Grouped (b : Block Nat) (groups : Nat) (ongoing : Bool) : Prop where
  ordinals : ∀ s ∈ b.snippets, ∀ n, s.group = some n → n ≤ groups
  counts : ongoing = true → ∀ s ∈ b.snippets, s.group = some groups → s.groupCount = none

/-- A closed group asks for less. -/
theorem Block.Grouped.shut {b : Block Nat} {groups : Nat} {ongoing : Bool}
    (grouped : b.Grouped groups ongoing) : b.Grouped groups false :=
  ⟨grouped.ordinals, fun shut => absurd shut Bool.false_ne_true⟩

/-- None of the snippets put away belongs to a group that begins now. -/
theorem Block.Grouped.begin {b : Block Nat} {groups : Nat} {ongoing : Bool}
    (grouped : b.Grouped groups ongoing) : b.Grouped (groups + 1) true := by
  refine ⟨fun s member n belongs => Nat.le_succ_of_le (grouped.ordinals s member n belongs), ?_⟩
  intro _ s member belongs
  have bound := grouped.ordinals s member _ belongs
  omega

structure Opened.Grouped (o : Opened) (groups : Nat) (ongoing : Bool) : Prop where
  block : o.block.Grouped groups ongoing
  group : o.snippet.group = if !o.snippet.beats.isEmpty && ongoing then some groups else none
  count : o.snippet.groupCount = none

namespace Opened

variable {o : Opened} {groups : Nat} {ongoing : Bool}

theorem Grouped.closedBlock (grouped : o.Grouped groups ongoing) (index : Nat) :
    (o.closedBlock index).Grouped groups ongoing := by
  constructor
  · intro s member n belongs
    rcases mem_closedBlock member with old | ⟨beat, rest, beats, rfl⟩
    · exact grouped.block.ordinals s old n belongs
    · have group : some n = _ := belongs.symm.trans grouped.group
      simp only [beats, List.isEmpty_cons, Bool.not_false, Bool.true_and] at group
      split at group
      · exact Nat.le_of_eq (Option.some.inj group)
      · cases group
  · intro isOpen s member belongs
    rcases mem_closedBlock member with old | ⟨beat, rest, beats, rfl⟩
    · exact grouped.block.counts isOpen s old belongs
    · exact grouped.count

/-- Outside a group the place in one does not matter. -/
theorem closedBlock_of_not_open (grouped : o.Grouped groups false) (i j : Nat) :
    o.closedBlock i = o.closedBlock j := by
  have group : o.snippet.group = none := by simpa using grouped.group
  simp [Opened.closedBlock, group]

theorem closedScene_of_not_open (grouped : o.Grouped groups false) (i j : Nat) :
    o.closedScene i = o.closedScene j := by
  simp only [Opened.closedScene, closedBlock_of_not_open grouped i j]

/-- No snippet of another group is open when a group begins. -/
theorem newMembers_of_not_open (grouped : o.Grouped groups false) : o.newMembers = 0 := by
  have group : o.snippet.group = none := by simpa using grouped.group
  simp [Opened.newMembers, group]

/-- One more beat leaves a snippet that has beats in its group. -/
theorem Grouped.group_stays (grouped : o.Grouped groups ongoing) {beat : Beat} {rest : List Beat}
    (beats : o.snippet.beats = beat :: rest) :
    (if ongoing then some groups else o.snippet.group) = o.snippet.group := by
  have group := grouped.group
  cases ongoing with
  | true => simpa [beats] using group.symm
  | false => rfl

/-- A fresh block and snippet belong to no group. -/
theorem grouped_fresh (o : Opened) (snippets : o.block.snippets = [])
    (beats : o.snippet.beats = []) (group : o.snippet.group = none)
    (count : o.snippet.groupCount = none) (groups : Nat) (ongoing : Bool) :
    o.Grouped groups ongoing := by
  refine ⟨⟨?_, ?_⟩, ?_, count⟩
  · simp [snippets]
  · simp [snippets]
  · simp [beats, group]

end Opened

namespace Draft

/-- What the open block and snippet say of groups. -/
def Grouped (d : Draft) : Prop :=
  ∀ o, d.opened = some o → o.Grouped d.groups d.groupDepth.isSome

variable {d : Draft}

theorem grouped_empty : Grouped {} := by
  intro o opened
  cases opened

theorem Grouped.congr {d' : Draft} (grouped : d.Grouped) (opened : d'.opened = d.opened)
    (groups : d'.groups = d.groups) (depth : d'.groupDepth = d.groupDepth) : d'.Grouped := by
  intro o eq
  rw [groups, depth]
  exact grouped o (opened ▸ eq)

/-- A boundary leaves a fresh snippet, whatever group is open then; of the block before it nothing
is needed but what it says of groups. -/
theorem grouped_boundary
    (blocks : ∀ o, d.opened = some o →
      (o.closedBlock d.members).Grouped d.groups d.groupDepth.isSome) :
    d.boundary.Grouped := by
  intro o' after
  cases opened : d.opened with
  | none => simp [boundary, opened] at after
  | some o =>
      rw [opened_boundary opened] at after
      obtain rfl := Option.some.inj after
      rw [groups_boundary, groupDepth_boundary]
      exact ⟨blocks o opened, by simp [freshSnippet], rfl⟩

theorem Grouped.boundary (grouped : d.Grouped) : d.boundary.Grouped :=
  grouped_boundary fun o opened => (grouped o opened).closedBlock d.members

theorem Grouped.openLevel (grouped : d.Grouped) (group : Bool) : (d.openLevel group).Grouped := by
  unfold Draft.openLevel
  apply grouped_boundary
  dsimp only
  by_cases starts : (group && d.groupDepth.isNone) = true
  · simp only [if_pos starts, emit]
    intro o opened
    exact ((grouped o opened).closedBlock 0).begin
  · simp only [if_neg starts]
    intro o opened
    exact (grouped o opened).closedBlock d.members

theorem Grouped.countGroup (grouped : d.Grouped) (shut : d.groupDepth = none) :
    d.countGroup.Grouped := by
  intro o' after
  rw [opened_countGroup, Option.map_eq_some_iff] at after
  obtain ⟨o, opened, rfl⟩ := after
  have was := grouped o opened
  refine ⟨⟨?_, ?_⟩, was.group, was.count⟩
  · simp only [List.forall_mem_map, group_counted]
    exact was.block.ordinals
  · simp [Draft.countGroup, shut]

theorem Grouped.closeLevel (grouped : d.Grouped) : d.closeLevel.Grouped := by
  unfold Draft.closeLevel
  dsimp only
  split
  · refine Grouped.countGroup (grouped_boundary ?_) ?_
    · intro o opened
      exact ((grouped o opened).closedBlock d.members).shut
    · rw [groupDepth_boundary]
      rfl
  · refine Grouped.boundary ?_
    exact grouped.congr rfl rfl rfl

theorem grouped_beginScene (d : Draft) (id : Text) (origin : Origin) :
    (d.beginScene id origin).Grouped := by
  intro o after
  obtain rfl := Option.some.inj after
  exact Opened.grouped_fresh _ rfl rfl rfl rfl _ _

theorem grouped_beginBlock (d : Draft) (id : Text) (origin : Origin) :
    (d.beginBlock id origin).Grouped := by
  intro o' after
  unfold Draft.beginBlock at after ⊢
  cases opened : d.opened with
  | none => simp [emit, opened] at after
  | some o =>
      simp only [emit, opened, Option.some.injEq] at after
      subst after
      exact Opened.grouped_fresh _ rfl rfl rfl rfl _ _

/-- A beat puts its snippet into the open group, and a snippet that has beats is in it already. -/
theorem Grouped.addBeat (grouped : d.Grouped) {o : Opened} (opened : d.opened = some o)
    (beat : Beat) : (d.addBeat o beat).Grouped := by
  have was := grouped o opened
  obtain ⟨added, -, after⟩ := d.opened_addBeat o beat
  intro o' eq
  obtain rfl := Option.some.inj (after.symm.trans eq)
  rw [groups_addBeat, groupDepth_addBeat]
  refine ⟨was.block, ?_, was.count⟩
  have group := was.group
  cases depth : d.groupDepth.isSome with
  | true => simp
  | false => simpa [depth] using group

theorem Grouped.passBy (grouped : d.Grouped) (origin : Origin) (tagged : Option Tagged) :
    (d.passBy origin tagged).Grouped := by
  unfold Draft.passBy
  cases tagged with
  | none => exact grouped.congr rfl rfl rfl
  | some t => exact grouped.congr rfl rfl rfl

theorem Grouped.boundaryKeeping (grouped : d.Grouped) : d.boundaryKeeping.Grouped := by
  have emptied : Grouped { d with pending := [] } := grouped.congr rfl rfl rfl
  exact emptied.boundary.congr rfl rfl rfl

theorem Grouped.move {d' : Draft} (move : Move d d') (grouped : d.Grouped) : d'.Grouped := by
  cases move with
  | emit e | note comment | cascade c | merging b => exact grouped.congr rfl rfl rfl
  | boundary => exact grouped.boundary
  | boundaryKeeping => exact grouped.boundaryKeeping
  | openLevel group => exact grouped.openLevel group
  | closeLevel => exact grouped.closeLevel
  | beginScene id origin => exact grouped_beginScene d id origin
  | beginBlock id origin => exact grouped_beginBlock d id origin
  | addBeat o beat opened => exact grouped.addBeat opened beat
  | passBy origin tagged => exact grouped.passBy origin tagged

theorem Grouped.moves {d' : Draft} (moves : Moves d d') (grouped : d.Grouped) : d'.Grouped :=
  Moves.keep (fun _ _ move grouped => grouped.move move) moves grouped

/-- **In every draft of a script the open snippet, once it has a beat, belongs to the open group and
to none if none is open.** -/
theorem grouped_upTo (lines : List SourceLine) : (upTo lines).Grouped :=
  upTo_induction grouped_empty (fun _ _ move grouped => grouped.move move) lines

end Draft

end Beatsheet

/-
# Beatsheet.Proofs.Draft.Idle — registers that nothing asks for

Two registers of a draft may hold something that does not matter. While no group is open nothing
asks for the number of members, for the next group begins with none. Whether alternatives are to be
merged is asked by a gather, and by nothing else.

Two drafts that differ in these two alone go on to do so (`Agrees.step`), as long as a gather finds
the same in both. Some lines settle what the next gather finds, whatever it was before
(`Draft.settles`); so the drafts agree for good unless a gather comes before all of these
(`Draft.asksBack`, `Agrees.foldl_step`).
-/
import Beatsheet.Proofs.Draft.Group
import Beatsheet.Proofs.Draft.Prose
import Beatsheet.Proofs.Draft.Turned

set_option autoImplicit false

namespace Beatsheet

namespace Draft

variable {d e : Draft}

/-! ## Setting the registers -/

def set (d : Draft) (members : Nat) (merging : Bool) : Draft :=
  { d with members, merging }

/-- Two drafts agree if they differ in the two registers at most, and in a group in the second
only. -/
inductive Agrees (d : Draft) : Draft → Prop
  | set (members : Nat) (merging : Bool)
      (counted : d.groupDepth.isSome = true → members = d.members) :
      Agrees d (d.set members merging)

theorem Agrees.refl (d : Draft) : d.Agrees d :=
  .set d.members d.merging fun _ => rfl

/-- In a group the members are counted alike, and outside of one their number tells the open snippet
nothing. -/
theorem Grouped.closedBlock (grouped : d.Grouped) {members : Nat}
    (counted : d.groupDepth.isSome = true → members = d.members) :
    ∀ o, d.opened = some o → o.closedBlock members = o.closedBlock d.members := by
  intro o opened
  cases depth : d.groupDepth.isSome with
  | true => rw [counted depth]
  | false =>
      have was := grouped o opened
      rw [depth] at was
      exact Opened.closedBlock_of_not_open was members d.members

section Set

variable (d : Draft) {members : Nat} {merging : Bool}

theorem boundary_set
    (closed : ∀ o, d.opened = some o → o.closedBlock members = o.closedBlock d.members) :
    (d.set members merging).boundary =
      d.boundary.set (members + d.opened.elim 0 Opened.newMembers) merging := by
  have opened' : (d.set members merging).opened = d.opened := rfl
  have members' : (d.set members merging).members = members := rfl
  unfold boundary
  rw [opened']
  cases opened : d.opened with
  | none => rfl
  | some o =>
      dsimp only
      rw [members', closed o opened]
      rfl

theorem close_set
    (closed : ∀ o, d.opened = some o → o.closedBlock members = o.closedBlock d.members) :
    (d.set members merging).close =
      d.close.set (members + d.opened.elim 0 Opened.newMembers) merging := by
  have opened' : (d.set members merging).opened = d.opened := rfl
  have members' : (d.set members merging).members = members := rfl
  unfold close
  rw [opened']
  cases opened : d.opened with
  | none => rfl
  | some o =>
      dsimp only
      rw [members', Opened.closedScene, closed o opened]
      rfl

theorem heard_set (line : SourceLine) :
    (d.set members merging).heard line = (d.heard line).set members merging := by
  unfold heard
  cases line.kind
  all_goals cases (Reading.ofLine line.text).comment <;> rfl

theorem addBeat_set (o : Opened) (beat : Beat) :
    (d.set members merging).addBeat o beat = (d.addBeat o beat).set members merging := by
  unfold addBeat
  dsimp only
  rw [apply_ite (fun e : Draft => e.set members merging)]
  rfl

theorem passBy_set (origin : Origin) (tagged : Option Tagged) :
    (d.set members merging).passBy origin tagged =
      (d.passBy origin tagged).set members merging := by
  cases tagged <;> rfl

theorem hidden_set (members : Nat) (merging : Bool) :
    Hidden (fun d => d.set members merging) id where
  cascade _ := rfl
  opened d := (congrFun Option.map_id d.opened).symm
  complain _ _ _ := rfl
  note _ _ := rfl
  addBeat d := d.addBeat_set
  passBy d := d.passBy_set

end Set

/-! ## What a gather finds -/

section Merging

variable (d : Draft)

@[simp] theorem merging_boundary : d.boundary.merging = d.merging := by
  unfold boundary
  split <;> rfl

@[simp] theorem merging_heard (line : SourceLine) : (d.heard line).merging = d.merging := by
  unfold heard
  cases line.kind
  all_goals cases (Reading.ofLine line.text).comment <;> rfl

/-- Whether the innermost level of braces is that of the open group. -/
def endsGroup : Bool :=
  d.groupDepth.any (d.levels.pop.depth < ·)

/-- Whether alternatives are to be merged behind a turn. -/
def mergesBehind : Turn → Bool
  | .opening _ => d.merging
  | .closing => d.merging || d.endsGroup
  | .speech => d.merging && d.cascade.active
  | .choice _ => true
  | .gather | .other => false

theorem merging_turn (turn : Turn) : (d.turn turn).merging = d.mergesBehind turn := by
  cases turn with
  | opening group =>
      simp only [Draft.turn, openLevel, merging_boundary]
      split <;> rfl
  | closing =>
      have ends : d.groupDepth.any (d.levels.pop.depth < ·) = d.endsGroup := rfl
      simp only [Draft.turn, closeLevel, mergesBehind, ends]
      split
      · rename_i closes
        rw [closes, Bool.or_true]
        exact merging_boundary _
      · rename_i goesOn
        rw [eq_false_of_ne_true goesOn, Bool.or_false]
        exact merging_boundary _
  | speech =>
      simp only [Draft.turn, mergesBehind]
      split
      · rename_i active
        rw [active, Bool.and_true]
        exact merging_boundary { d with pending := [] }
      · rename_i inactive
        rw [eq_false_of_ne_true inactive, Bool.and_false]
        exact merging_boundary _
  | choice text => exact merging_boundary _
  | gather =>
      simp only [Draft.turn, mergesBehind]
      split
      · exact merging_boundary _
      · rename_i unset
        rw [merging_boundary, eq_false_of_ne_true unset]
  | other => exact merging_boundary _

theorem merging_play (line : Text) (origin : Origin) (role : Role) :
    (d.play line origin role).merging = d.merging := by
  cases role with
  | clause => exact d.merging_boundary
  | knot id => exact d.merging_close
  | stitch id =>
      simp only [play, beginBlock]
      split <;> rfl
  | comment text => rfl
  | prose ways =>
      have same : d.prose line origin ways = (d.prose line origin ways).set d.members d.merging :=
        (hidden_set d.members d.merging).prose d line origin ways
      rw [play, same]
      rfl

theorem merging_step (line : SourceLine) :
    (d.step line).merging = line.turn?.elim d.merging d.mergesBehind := by
  have heard := d.alike_heard line
  have active := d.active_heard line
  have turned : (d.turned line).merging = line.turn?.elim d.merging d.mergesBehind := by
    unfold turned
    cases line.turn? with
    | none => exact d.merging_heard line
    | some turn =>
        rw [Option.elim_some, merging_turn, Option.elim_some]
        cases turn <;>
          simp [mergesBehind, endsGroup, active, heard.levels, heard.groupDepth]
  rw [step_eq, ← turned]
  cases line.kind with
  | blank | statement | tags tokens => rfl
  | content turn role => exact merging_play _ _ _ _

/-- Whether the line settles what the next gather finds, whatever it was before. -/
def settles (line : SourceLine) : Bool :=
  match line.turn? with
  | none | some (.opening _) => false
  | some .closing => d.endsGroup
  | some .speech => !d.cascade.active
  | some (.choice _) | some .gather | some .other => true

/-- Whether a gather asks what the lines have not settled: it comes before all else that does. -/
def asksBack (d : Draft) : List SourceLine → Bool
  | [] => false
  | line :: rest =>
    if d.settles line then line.turn? == some .gather else (d.step line).asksBack rest

end Merging

/-! ## Operations -/

namespace Agrees

/-- Of the open snippet it is enough that it is told the same of its place in a group. -/
theorem boundary_set {members : Nat} {merging : Bool}
    (counted : d.groupDepth.isSome = true → members = d.members)
    (closed : ∀ o, d.opened = some o → o.closedBlock members = o.closedBlock d.members) :
    d.boundary.Agrees (d.set members merging).boundary := by
  rw [d.boundary_set closed]
  refine .set _ _ fun depth => ?_
  rw [groupDepth_boundary] at depth
  rw [members_boundary, counted depth]

theorem boundary (agrees : d.Agrees e) (grouped : d.Grouped) : d.boundary.Agrees e.boundary := by
  obtain ⟨members, merging, counted⟩ := agrees
  exact boundary_set counted (grouped.closedBlock counted)

theorem boundaryKeeping (agrees : d.Agrees e) (grouped : d.Grouped) :
    d.boundaryKeeping.Agrees e.boundaryKeeping := by
  obtain ⟨members, merging, counted⟩ := agrees
  have closed := grouped.closedBlock counted
  have emptied : (({ d with pending := [] } : Draft).set members merging).boundary = _ :=
    Draft.boundary_set { d with pending := [] } closed
  have same : (d.set members merging).boundaryKeeping =
      d.boundaryKeeping.set (members + d.opened.elim 0 Opened.newMembers) merging :=
    congrArg (fun e : Draft => { e with pending := d.pending }) emptied
  rw [same]
  refine .set _ _ fun depth => ?_
  have depth : ({ d with pending := [] } : Draft).boundary.groupDepth.isSome = true := depth
  rw [groupDepth_boundary] at depth
  rw [counted depth]
  exact (members_boundary { d with pending := [] }).symm

/-- A group that begins counts its members anew. -/
theorem openLevel (agrees : d.Agrees e) (grouped : d.Grouped) (group : Bool) :
    (d.openLevel group).Agrees (e.openLevel group) := by
  obtain ⟨members, merging, counted⟩ := agrees
  have closed := grouped.closedBlock counted
  have depth : (d.set members merging).groupDepth = d.groupDepth := rfl
  unfold Draft.openLevel
  dsimp only
  rw [depth]
  split
  · exact @boundary_set _ 0 merging (fun _ => rfl) fun _ _ => rfl
  · exact boundary_set counted closed

/-- A group that ends was counted alike; otherwise nothing is told its number. -/
theorem closeLevel (agrees : d.Agrees e) (grouped : d.Grouped) :
    d.closeLevel.Agrees e.closeLevel := by
  obtain ⟨members, merging, counted⟩ := agrees
  have closed := grouped.closedBlock counted
  have depth : (d.set members merging).groupDepth = d.groupDepth := rfl
  have levels : (d.set members merging).levels = d.levels := rfl
  unfold Draft.closeLevel
  dsimp only
  rw [depth, levels]
  split
  · rename_i ends
    have isOpen : d.groupDepth.isSome = true := by
      rw [Option.any_eq_true] at ends
      obtain ⟨n, known, -⟩ := ends
      rw [known]
      rfl
    rw [counted isOpen]
    exact .refl _
  · exact boundary_set counted closed

theorem beginScene (agrees : d.Agrees e) (grouped : d.Grouped) (id : Text) (origin : Origin) :
    (d.beginScene id origin).Agrees (e.beginScene id origin) := by
  obtain ⟨members, merging, counted⟩ := agrees
  unfold Draft.beginScene
  rw [d.close_set (grouped.closedBlock counted)]
  refine .set _ _ fun depth => ?_
  have depth : d.close.groupDepth.isSome = true := depth
  rw [groupDepth_close] at depth
  rw [counted depth]
  exact d.members_close.symm

theorem beginBlock (agrees : d.Agrees e) (grouped : d.Grouped) (id : Text) (origin : Origin) :
    (d.beginBlock id origin).Agrees (e.beginBlock id origin) := by
  obtain ⟨members, merging, counted⟩ := agrees
  have closed := grouped.closedBlock counted
  have opened' : (d.set members merging).opened = d.opened := rfl
  have members' : (d.set members merging).members = members := rfl
  unfold Draft.beginBlock
  dsimp only [emit]
  rw [opened', members']
  cases opened : d.opened with
  | none => exact .set _ _ counted
  | some o =>
      have scene : o.closedScene members = o.closedScene d.members := by
        rw [o.closedScene_eq, o.closedScene_eq, closed o opened]
      dsimp only
      rw [scene]
      exact .set _ _ fun depth => congrArg (· + o.newMembers) (counted depth)

/-- Only a gather asks whether alternatives are to be merged. -/
theorem turn (agrees : d.Agrees e) (grouped : d.Grouped) (turn : Turn)
    (gather : turn = .gather → e.merging = d.merging) : (d.turn turn).Agrees (e.turn turn) := by
  obtain ⟨members, merging, counted⟩ := agrees
  have agrees : d.Agrees (d.set members merging) := .set members merging counted
  have closed := grouped.closedBlock counted
  have active : (d.set members merging).cascade.active = d.cascade.active := rfl
  cases turn with
  | opening group => exact agrees.openLevel grouped group
  | closing => exact agrees.closeLevel grouped
  | speech =>
      simp only [Draft.turn, active]
      split
      · exact agrees.boundaryKeeping grouped
      · exact boundary_set (d := { d with merging := false }) counted closed
  | choice text =>
      exact boundary_set (d := ({ d with merging := true } : Draft).note (choiceMark text))
        counted closed
  | gather =>
      simp only [Draft.turn, gather rfl]
      split
      · exact boundary_set (d := ({ d with merging := false } : Draft).note mergeMark)
          counted closed
      · exact boundary_set counted closed
  | other => exact boundary_set (d := { d with merging := false }) counted closed

theorem turned (agrees : d.Agrees e) (grouped : d.Grouped) (line : SourceLine)
    (gather : line.turn? = some .gather → e.merging = d.merging) :
    (d.turned line).Agrees (e.turned line) := by
  obtain ⟨members, merging, counted⟩ := agrees
  have alike := d.alike_heard line
  have heard : (d.heard line).Agrees ((d.set members merging).heard line) := by
    rw [d.heard_set]
    refine .set _ _ fun depth => ?_
    rw [alike.groupDepth] at depth
    rw [alike.members, counted depth]
  have grouped : (d.heard line).Grouped := grouped.congr alike.opened alike.groups alike.groupDepth
  unfold Draft.turned
  cases asks : line.turn? with
  | none => exact heard
  | some turn =>
      refine heard.turn grouped turn fun isGather => ?_
      rw [merging_heard, merging_heard]
      exact gather (by rw [asks, isGather])

theorem prose (agrees : d.Agrees e) (line : Text) (origin : Origin) (ways : Prose) :
    (d.prose line origin ways).Agrees (e.prose line origin ways) := by
  obtain ⟨members, merging, counted⟩ := agrees
  have reads := d.readsProse_prose line origin ways
  rw [(hidden_set members merging).prose d]
  generalize d.prose line origin ways = after at reads
  refine .set _ _ fun depth => ?_
  cases reads with
  | beat e o beat alike _ _ _ =>
      rw [groupDepth_addBeat, alike.groupDepth] at depth
      rw [members_addBeat, alike.members, counted depth]
  | rest _ alike _ =>
      rw [alike.groupDepth] at depth
      rw [alike.members, counted depth]

theorem play (agrees : d.Agrees e) (grouped : d.Grouped) (line : Text) (origin : Origin)
    (role : Role) : (d.play line origin role).Agrees (e.play line origin role) := by
  cases role with
  | clause => exact agrees.boundary grouped
  | knot id => exact agrees.beginScene grouped id origin
  | stitch id => exact agrees.beginBlock grouped id origin
  | comment text =>
      obtain ⟨members, merging, counted⟩ := agrees
      exact .set _ _ counted
  | prose ways => exact agrees.prose line origin ways

/-- **Two drafts that agree do so after a line**, unless it is a gather and finds not the same in
both. -/
theorem step (agrees : d.Agrees e) (grouped : d.Grouped) (line : SourceLine)
    (gather : line.turn? = some .gather → e.merging = d.merging) :
    (d.step line).Agrees (e.step line) := by
  have turned := agrees.turned grouped line gather
  have grouped : (d.turned line).Grouped := Grouped.moves (d.moves_turned line) grouped
  rw [step_eq, step_eq]
  cases line.kind with
  | blank | statement => exact turned
  | tags tokens =>
      generalize e.turned line = e' at turned
      obtain ⟨members, merging, counted⟩ := turned
      exact .set _ _ counted
  | content turn role => exact turned.play grouped _ _ role

/-- Both leave the same for the next gather if it was the same or the line settles it. -/
theorem merging_step (agrees : d.Agrees e) {line : SourceLine}
    (settled : d.settles line = false → e.merging = d.merging) :
    (e.step line).merging = (d.step line).merging := by
  obtain ⟨members, merging, counted⟩ := agrees
  have ends : (d.set members merging).endsGroup = d.endsGroup := rfl
  have active : (d.set members merging).cascade.active = d.cascade.active := rfl
  have merging' : (d.set members merging).merging = merging := rfl
  rw [Draft.merging_step, Draft.merging_step]
  unfold settles at settled
  cases reads : line.turn? with
  | none => exact settled (by rw [reads])
  | some turn =>
      rw [reads] at settled
      cases turn with
      | opening group => exact settled rfl
      | closing =>
          cases closes : d.endsGroup with
          | false => simpa [mergesBehind, closes, ends] using settled closes
          | true => simp [mergesBehind, closes, ends]
      | speech =>
          cases on : d.cascade.active with
          | false => simp [mergesBehind, on, active]
          | true => simpa [mergesBehind, on, active] using settled (by simp [on])
      | choice text => rfl
      | gather => rfl
      | other => rfl

/-- **Two drafts that agree do so after any lines**, if they leave the same for the next gather or
none of the lines asks for it before it is settled. -/
theorem foldl_step (agrees : d.Agrees e) (grouped : d.Grouped) {lines : List SourceLine}
    (merging : e.merging = d.merging ∨ d.asksBack lines = false) :
    (lines.foldl Draft.step d).Agrees (lines.foldl Draft.step e) := by
  induction lines generalizing d e with
  | nil => exact agrees
  | cons line rest ih =>
      have moved : (d.step line).Grouped := Grouped.moves (.step d line) grouped
      rcases merging with same | silent
      · exact ih (agrees.step grouped line fun _ => same) moved
          (.inl (agrees.merging_step fun _ => same))
      · unfold asksBack at silent
        split at silent
        · rename_i settles
          have other : line.turn? ≠ some .gather := by simpa using silent
          refine ih (agrees.step grouped line fun gather => absurd gather other) moved (.inl ?_)
          exact agrees.merging_step fun not => absurd (settles.symm.trans not) (by decide)
        · rename_i unsettled
          have other : line.turn? ≠ some .gather := by
            intro gather
            exact unsettled (by rw [settles, gather])
          exact ih (agrees.step grouped line fun gather => absurd gather other) moved (.inr silent)

/-- What is put away at the end does not depend on the registers. -/
theorem close (agrees : d.Agrees e) (grouped : d.Grouped) : d.close.Agrees e.close := by
  obtain ⟨members, merging, counted⟩ := agrees
  rw [d.close_set (grouped.closedBlock counted)]
  refine .set _ _ fun depth => ?_
  rw [groupDepth_close] at depth
  rw [members_close, counted depth]

end Agrees

end Draft

end Beatsheet

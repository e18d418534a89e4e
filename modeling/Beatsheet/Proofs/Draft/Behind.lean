/-
# Beatsheet.Proofs.Draft.Behind — drafts behind a past

Of what a draft has put away and recorded a line asks nothing, and of its two counters only which
number is the next one. So a draft can be put behind any past: its scenes, tagged lines and events
come behind those of the past, and its groups and snippets are numbered on from there
(`Draft.behind`). It is then read on as it is by itself: first to take in a line and then to put
the draft behind the past is the same as the other way round (`step_behind`), and so with any number
of lines (`foldl_step_behind`).
-/
import Beatsheet.Proofs.Draft.Basic
import Beatsheet.Proofs.Draft.Prose

set_option autoImplicit false

namespace Beatsheet

/-! ## Numbering groups on -/

section Shift

variable {ι : Type} (n : Nat)

/-- A snippet of a group gets the ordinal that the group has behind `n` others. -/
def Snippet.shift (s : Snippet ι) : Snippet ι :=
  { s with group := s.group.map (n + ·) }

def Block.shift (b : Block ι) : Block ι :=
  { b with snippets := b.snippets.map (Snippet.shift n) }

def Scene.shift (s : Scene ι) : Scene ι :=
  { s with blocks := s.blocks.map (Block.shift n) }

def Event.shift : Event → Event
  | .groupOpened ordinal depth => .groupOpened (n + ordinal) depth
  | .groupClosed ordinal => .groupClosed (n + ordinal)
  | e => e

@[simp] theorem Event.diagnostic?_shift (e : Event) : (e.shift n).diagnostic? = e.diagnostic? := by
  cases e <;> rfl

end Shift

/-! ## Pasts -/

structure Past where
  scenes : List (Scene Nat)
  taggedLines : List TaggedLine
  events : List Event
  /-- The number of groups so far. -/
  groups : Nat
  /-- The number of snippets started. -/
  started : Nat

section Behind

variable (p : Past)

def Snippet.behind (s : Snippet Nat) : Snippet Nat :=
  { s.shift p.groups with id := p.started + s.id }

def Block.behind (b : Block Nat) : Block Nat :=
  { b with snippets := b.snippets.map (Snippet.behind p) }

def Scene.behind (s : Scene Nat) : Scene Nat :=
  { s with blocks := s.blocks.map (Block.behind p) }

def Opened.behind (o : Opened) : Opened where
  scene := o.scene.behind p
  block := o.block.behind p
  snippet := o.snippet.behind p

/-- The draft behind a past. What is open and not yet put away is the draft's own. -/
def Draft.behind (d : Draft) : Draft :=
  { d with
    scenes := p.scenes ++ d.scenes.map (Scene.behind p)
    taggedLines := p.taggedLines ++ d.taggedLines
    events := p.events ++ d.events.map (Event.shift p.groups)
    opened := d.opened.map (Opened.behind p)
    groups := p.groups + d.groups
    started := p.started + d.started }

end Behind

variable {p : Past}

namespace Opened

variable (o : Opened) (index : Nat)

theorem closedBlock_behind : (o.behind p).closedBlock index = (o.closedBlock index).behind p := by
  have beats : (o.behind p).snippet.beats = o.snippet.beats := rfl
  unfold closedBlock
  rw [beats]
  cases o.snippet.beats with
  | nil => rfl
  | cons beat rest =>
      simp [Opened.behind, Block.behind, Snippet.behind, Snippet.shift, Function.comp_def]

theorem closedScene_behind : (o.behind p).closedScene index = (o.closedScene index).behind p := by
  have blocks : (o.behind p).scene.blocks = o.scene.blocks.map (Block.behind p) := rfl
  have empty : ((o.closedBlock index).behind p).snippets.isEmpty =
      (o.closedBlock index).snippets.isEmpty := List.isEmpty_map
  rw [closedScene_eq, closedScene_eq, closedBlock_behind, empty, blocks]
  split <;> simp [Opened.behind, Scene.behind]

theorem newMembers_behind : (o.behind p).newMembers = o.newMembers := by
  have group : (o.behind p).snippet.group.isSome = o.snippet.group.isSome := Option.isSome_map
  rw [newMembers, group]
  rfl

theorem carried_behind : (o.behind p).carried = o.carried := rfl

end Opened

namespace Draft

variable (d : Draft)

/-! ## Operations behind a past -/

theorem opened_behind : (d.behind p).opened = d.opened.map (Opened.behind p) := rfl

theorem emit_behind (e : Event) {d d' : Draft} (same : d' = d.behind p) :
    d'.emit (e.shift p.groups) = (d.emit e).behind p := by
  simp [same, emit, behind]

theorem complain_behind (c : Complaint) (origin : Origin) :
    (d.behind p).complain c origin = (d.complain c origin).behind p :=
  emit_behind (.reported (c.diagnostic origin)) rfl

theorem freshSnippet_behind (comments : List Text) :
    (d.behind p).freshSnippet comments = (d.freshSnippet comments).behind p := rfl

theorem boundary_behind : (d.behind p).boundary = d.boundary.behind p := by
  unfold boundary
  rw [opened_behind]
  cases opened : d.opened with
  | none => simp [behind, opened]
  | some o =>
      rw [Option.map_some]
      dsimp only
      rw [o.carried_behind, o.newMembers_behind, o.closedBlock_behind, d.freshSnippet_behind]
      rfl

theorem boundaryKeeping_behind : (d.behind p).boundaryKeeping = d.boundaryKeeping.behind p := by
  have emptied := boundary_behind (p := p) { d with pending := [] }
  exact congrArg (fun e : Draft => { e with pending := d.pending }) emptied

theorem close_behind : (d.behind p).close = d.close.behind p := by
  unfold close
  rw [opened_behind]
  cases opened : d.opened with
  | none => simp [behind, opened]
  | some o =>
      have empty : ((o.closedScene d.members).behind p).blocks.isEmpty =
          (o.closedScene d.members).blocks.isEmpty := List.isEmpty_map
      rw [Option.map_some]
      dsimp only
      rw [o.closedScene_behind, o.newMembers_behind]
      have members : (d.behind p).members = d.members := rfl
      rw [members, empty]
      split <;> simp [behind]

theorem beginScene_behind (id : Text) (origin : Origin) :
    (d.behind p).beginScene id origin = (d.beginScene id origin).behind p := by
  have begun : ({ (d.behind p).close with
        cascade := (d.behind p).cascade.beginScene } : Draft).emit (.sceneBegun id) =
      (({ d.close with cascade := d.cascade.beginScene } : Draft).emit (.sceneBegun id)).behind
        p := by
    rw [close_behind]
    exact emit_behind (.sceneBegun id) rfl
  unfold beginScene
  dsimp only
  rw [begun]
  rfl

theorem beginBlock_behind (id : Text) (origin : Origin) :
    (d.behind p).beginBlock id origin = (d.beginBlock id origin).behind p := by
  have begun : ({ d.behind p with
        cascade := (d.behind p).cascade.beginBlock } : Draft).emit (.blockBegun id) =
      (({ d with cascade := d.cascade.beginBlock } : Draft).emit (.blockBegun id)).behind p :=
    emit_behind (.blockBegun id) rfl
  unfold beginBlock
  dsimp only
  rw [begun, opened_behind]
  have same : (({ d with cascade := d.cascade.beginBlock } : Draft).emit
      (.blockBegun id)).opened = d.opened := rfl
  rw [same]
  cases d.opened with
  | none => rfl
  | some o =>
      rw [Option.map_some]
      dsimp only
      rw [o.closedScene_behind, o.newMembers_behind]
      rfl

theorem openLevel_behind (group : Bool) :
    (d.behind p).openLevel group = (d.openLevel group).behind p := by
  have depth : (d.behind p).groupDepth = d.groupDepth := rfl
  unfold openLevel
  dsimp only
  rw [← boundary_behind, depth]
  split
  · exact congrArg boundary (emit_behind (.groupOpened (d.groups + 1) _) rfl)
  · rfl

theorem counted_behind (s : Snippet Nat) :
    (d.behind p).counted (s.behind p) = (d.counted s).behind p := by
  have last : ((s.behind p).group == some (d.behind p).groups) = (s.group == some d.groups) := by
    have group : (s.behind p).group = s.group.map (p.groups + ·) := rfl
    have groups : (d.behind p).groups = p.groups + d.groups := rfl
    rw [group, groups]
    cases s.group with
    | none => rfl
    | some n =>
        rw [Bool.eq_iff_iff]
        simp
  unfold counted
  rw [last]
  split <;> rfl

theorem countGroup_behind : (d.behind p).countGroup = d.countGroup.behind p := by
  have opened : (d.behind p).countGroup.opened = (d.countGroup.behind p).opened := by
    rw [opened_countGroup, opened_behind, opened_behind, opened_countGroup]
    cases d.opened with
    | none => rfl
    | some o =>
        simp [Opened.behind, Block.behind, counted_behind, Function.comp_def]
  exact congrArg (fun opened => { d.behind p with opened }) opened

theorem closeLevel_behind : (d.behind p).closeLevel = d.closeLevel.behind p := by
  have depth : (d.behind p).groupDepth = d.groupDepth := rfl
  have levels : (d.behind p).levels = d.levels := rfl
  have shut : (({ d.behind p with groupDepth := none, merging := true } : Draft).note
        mergeMark).emit (.groupClosed (d.behind p).groups) =
      ((({ d with groupDepth := none, merging := true } : Draft).note mergeMark).emit
        (.groupClosed d.groups)).behind p :=
    emit_behind (.groupClosed d.groups) rfl
  unfold closeLevel
  dsimp only
  rw [depth, levels]
  split
  · rw [← countGroup_behind, ← boundary_behind]
    exact congrArg (fun e : Draft => ({ e with levels := d.levels.pop }).boundary.countGroup) shut
  · rw [← boundary_behind]
    rfl

/-! ## Lines behind a past -/

theorem turn_behind (turn : Turn) : (d.behind p).turn turn = (d.turn turn).behind p := by
  have active : (d.behind p).cascade.active = d.cascade.active := rfl
  have merging : (d.behind p).merging = d.merging := rfl
  have unset := boundary_behind (p := p) { d with merging := false }
  cases turn with
  | opening group => exact d.openLevel_behind group
  | closing => exact d.closeLevel_behind
  | speech =>
      simp only [Draft.turn, active]
      split
      · exact d.boundaryKeeping_behind
      · exact unset
  | choice text =>
      exact boundary_behind (({ d with merging := true } : Draft).note (choiceMark text))
  | gather =>
      simp only [Draft.turn, merging]
      split
      · exact boundary_behind (({ d with merging := false } : Draft).note mergeMark)
      · exact d.boundary_behind
  | other => exact unset

theorem addBeat_behind (o : Opened) (beat : Beat) :
    (d.behind p).addBeat (o.behind p) beat = (d.addBeat o beat).behind p := by
  have group : (if (d.behind p).groupDepth.isSome then some (d.behind p).groups
        else (o.behind p).snippet.group) =
      (if d.groupDepth.isSome then some d.groups else o.snippet.group).map (p.groups + ·) := by
    have depth : (d.behind p).groupDepth = d.groupDepth := rfl
    rw [depth]
    split <;> rfl
  unfold addBeat
  dsimp only
  rw [group]
  split
  · rw [← complain_behind]
    refine congrArg (fun e : Draft => e.complain (.missingId beat.text) beat.origin) ?_
    exact emit_behind (.beatRead _) rfl
  · exact emit_behind (.beatRead _) rfl

theorem passBy_behind (origin : Origin) (tagged : Option Tagged) :
    (d.behind p).passBy origin tagged = (d.passBy origin tagged).behind p := by
  cases tagged with
  | none => rfl
  | some t =>
      unfold passBy
      dsimp only
      refine emit_behind (.lineTagged t.id origin) ?_
      simp [behind]

theorem hidden_behind (p : Past) : Hidden (Draft.behind p) (Opened.behind p) where
  cascade _ := rfl
  opened _ := rfl
  complain := complain_behind
  note _ _ := rfl
  addBeat := addBeat_behind
  passBy := passBy_behind

theorem play_behind (line : Text) (origin : Origin) (role : Role) :
    (d.behind p).play line origin role = (d.play line origin role).behind p := by
  cases role with
  | clause => exact d.boundary_behind
  | knot id => exact d.beginScene_behind id origin
  | stitch id => exact d.beginBlock_behind id origin
  | comment text => rfl
  | prose ways => exact (hidden_behind p).prose d line origin ways

theorem take_behind (line : Text) (origin : Origin) (kind : Kind) :
    (d.behind p).take line origin kind = (d.take line origin kind).behind p := by
  cases kind with
  | blank => rfl
  | statement => rfl
  | tags tokens => exact emit_behind (.tagsRouted d.cascade.scope? line) rfl
  | content turn role =>
      cases turn with
      | none => exact play_behind { d with cascade := d.cascade.markContent } line origin role
      | some turn =>
          have turned := turn_behind (p := p) { d with cascade := d.cascade.markContent } turn
          exact (congrArg (fun e => e.play line origin role) turned).trans
            (play_behind _ line origin role)

/-- **A line does the same to a draft behind a past as to the draft by itself.** -/
theorem step_behind (line : SourceLine) : (d.behind p).step line = (d.step line).behind p := by
  unfold step
  dsimp only
  cases (Reading.ofLine line.text).comment with
  | none => exact d.take_behind _ _ _
  | some comment => exact take_behind (d.note comment) _ _ _

theorem foldl_step_behind (lines : List SourceLine) :
    lines.foldl step (d.behind p) = (lines.foldl step d).behind p := by
  induction lines generalizing d with
  | nil => rfl
  | cons line rest ih => rw [List.foldl_cons, step_behind, ih, List.foldl_cons]

end Draft

end Beatsheet

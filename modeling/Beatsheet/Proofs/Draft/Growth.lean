/-
# Beatsheet.Proofs.Draft.Growth — drafts only grow

What a script would be if it ended here is `close`: the forest with all that is open put away. Each
move lets this forest grow at its end (`scenesGrow_move`), and so do more lines
(`growsTo_upTo_append`). Most
moves leave it as it is, for they only put away early what `close` would put away; a beat may begin
or extend the last snippet, and the brace that closes a group tells the snippets of the last block
how many they are.
-/
import Beatsheet.Proofs.Draft.Group
import Beatsheet.Proofs.Forest.Growth

set_option autoImplicit false

namespace Beatsheet

namespace Opened

variable {o o' : Opened} {i j : Nat}

/-- An open scene is extended if its last block is. -/
theorem extended_closedScene (scene : o'.scene = o.scene)
    (block : (o.closedBlock i).Extended (o'.closedBlock j)) :
    (o.closedScene i).Extended (o'.closedScene j) := by
  rw [closedScene_eq, closedScene_eq, scene]
  refine ⟨rfl, Grows.concat_unless (fun _ => rfl) block ?_ _⟩
  intro none
  rw [List.isEmpty_iff] at none ⊢
  exact (none ▸ block.snippets).eq_nil

end Opened

namespace Draft

variable {d d' : Draft} {o o' : Opened}

/-! ## What would be put away -/

theorem scenes_close (opened : d.opened = some o) :
    d.close.scenes =
      d.scenes ++
        if (o.closedScene d.members).blocks.isEmpty then [] else [o.closedScene d.members] := by
  simp only [close, opened]
  split <;> simp

theorem scenes_close_of_none (opened : d.opened = none) : d.close.scenes = d.scenes := by
  simp only [close, opened]

/-- Only the scenes put away and the one that is open count. -/
theorem scenes_close_congr (scenes : d'.scenes = d.scenes) (opened : d'.opened = d.opened)
    (members : d'.members = d.members) : d'.close.scenes = d.close.scenes := by
  cases was : d.opened with
  | none => rw [scenes_close_of_none was, scenes_close_of_none (opened.trans was), scenes]
  | some o => rw [scenes_close was, scenes_close (opened.trans was), scenes, members]

/-- The snippets of the blocks before the open one. -/
def away (d : Draft) : List (Snippet Nat) :=
  d.scenes.flatMap (·.snippets) ++ d.opened.elim [] (·.scene.snippets)

/-- The snippets of the open block, with the open snippet if it would be put away. -/
def here (d : Draft) : List (Snippet Nat) :=
  d.opened.elim [] fun o => (o.closedBlock d.members).snippets

theorem snippets_close (d : Draft) :
    d.close.scenes.flatMap (·.snippets) = d.away ++ d.here := by
  cases opened : d.opened with
  | none => simp [scenes_close_of_none opened, away, here, opened]
  | some o =>
      have scene := o.snippets_closedScene d.members
      rw [scenes_close opened, List.flatMap_append, away, here, opened, Option.elim_some,
        Option.elim_some, List.append_assoc, ← scene]
      congr 1
      split
      · rename_i none_
        rw [List.isEmpty_iff] at none_
        simp [Scene.snippets, none_]
      · rw [List.flatMap_singleton]

theorem scenesGrow_close (opened : d.opened = some o) (opened' : d'.opened = some o')
    (scenes : d'.scenes = d.scenes) (scene : o'.scene = o.scene)
    (block : (o.closedBlock d.members).Extended (o'.closedBlock d'.members)) :
    ScenesGrow d.close.scenes d'.close.scenes := by
  have extended := Opened.extended_closedScene scene block
  rw [scenes_close opened, scenes_close opened', scenes]
  refine Grows.concat_unless (fun _ => rfl) extended ?_ _
  intro none
  rw [List.isEmpty_iff] at none ⊢
  exact (none ▸ extended.blocks).eq_nil

/-! ## Moves that put away early -/

theorem scenes_close_boundary (d : Draft) : d.boundary.close.scenes = d.close.scenes := by
  cases opened : d.opened with
  | none =>
      exact scenes_close_congr (by simp [boundary, opened]) (by simp [boundary, opened])
        (by simp [boundary, opened])
  | some o =>
      have closed : ∀ i, ({ o with
            block := o.closedBlock d.members
            snippet := d.freshSnippet (o.carried ++ d.pending) } : Opened).closedScene i =
          o.closedScene d.members := fun i => rfl
      rw [scenes_close opened, scenes_close (opened_boundary opened), closed]
      simp only [boundary, opened]

theorem scenes_close_boundaryKeeping (d : Draft) :
    d.boundaryKeeping.close.scenes = d.close.scenes :=
  calc d.boundaryKeeping.close.scenes
    _ = ({ d with pending := [] } : Draft).boundary.close.scenes := scenes_close_congr rfl rfl rfl
    _ = ({ d with pending := [] } : Draft).close.scenes := scenes_close_boundary _
    _ = d.close.scenes := scenes_close_congr rfl rfl rfl

theorem scenes_close_beginScene (d : Draft) (id : Text) (origin : Origin) :
    (d.beginScene id origin).close.scenes = d.close.scenes := by
  unfold beginScene
  simp [close, emit, Opened.closedScene, Opened.closedBlock, freshSnippet]

theorem scenes_close_beginBlock (d : Draft) (id : Text) (origin : Origin) :
    (d.beginBlock id origin).close.scenes = d.close.scenes := by
  unfold beginBlock
  cases opened : d.opened with
  | none => exact scenes_close_congr rfl opened.symm rfl
  | some o =>
      simp [close, emit, opened, Opened.closedScene, Opened.closedBlock, freshSnippet]

/-- A group that begins counts its members anew, and the snippet open then is none of the last. -/
theorem scenes_close_openLevel (grouped : d.Grouped) (group : Bool) :
    (d.openLevel group).close.scenes = d.close.scenes := by
  unfold openLevel
  rw [scenes_close_boundary]
  dsimp only
  split
  · rename_i starts
    simp only [Bool.and_eq_true, Option.isNone_iff_eq_none] at starts
    cases opened : d.opened with
    | none => simp only [emit, close, opened]
    | some o =>
        have was := grouped o opened
        simp only [starts.2, Option.isSome_none] at was
        simp only [emit, close, opened, Opened.closedScene_of_not_open was 0 d.members]
  · exact scenes_close_congr rfl rfl rfl

/-! ## Moves that add -/

theorem counted_counted {s : Snippet Nat}
    (uncounted : s.group = some d.groups → s.groupCount = none) : s.Counted (d.counted s) := by
  unfold counted
  split
  · rename_i last
    rw [beq_iff_eq] at last
    exact ⟨rfl, by simp [uncounted last]⟩
  · exact .refl s

theorem scenesGrow_countGroup
    (uncounted : ∀ o, d.opened = some o → o.block.Grouped d.groups true) :
    ScenesGrow d.close.scenes d.countGroup.close.scenes := by
  cases opened : d.opened with
  | none =>
      refine ScenesGrow.of_eq (scenes_close_congr rfl ?_ rfl)
      simp [countGroup, opened]
  | some o =>
      have counts := (uncounted o opened).counts rfl
      have kept : List.Forall₂ Snippet.Counted o.block.snippets
          (o.block.snippets.map d.counted) :=
        List.forall₂_map_right_iff.mpr
          (List.forall₂_same.mpr fun s member => counted_counted (counts s member))
      have after := d.opened_countGroup
      rw [opened, Option.map_some] at after
      refine scenesGrow_close opened after rfl rfl ?_
      unfold Opened.closedBlock
      dsimp only
      split
      · exact ⟨rfl, .of_forall₂ kept⟩
      · exact ⟨rfl, Grows.append_left kept (Grows.refl Snippet.Counted.refl _)⟩

theorem scenesGrow_closeLevel (grouped : d.Grouped) :
    ScenesGrow d.close.scenes d.closeLevel.close.scenes := by
  unfold closeLevel
  dsimp only
  split
  · rename_i ends
    refine .trans (.of_eq ?_) (scenesGrow_countGroup ?_)
    · rw [scenes_close_boundary]
      exact scenes_close_congr rfl rfl rfl
    · intro o' after
      rw [groups_boundary]
      cases opened : d.opened with
      | none => simp [boundary, note, emit, opened] at after
      | some o =>
          have isOpen : d.groupDepth.isSome = true := by
            rw [Option.any_eq_true] at ends
            obtain ⟨depth, some_, _⟩ := ends
            rw [some_]
            rfl
          rw [opened_boundary (by exact opened)] at after
          obtain rfl := Option.some.inj after
          exact isOpen ▸ (grouped o opened).closedBlock d.members
  · refine .of_eq ?_
    rw [scenes_close_boundary]
    exact scenes_close_congr rfl rfl rfl

/-- A beat begins the last snippet or extends it, and an extended snippet stays in its group. -/
theorem scenesGrow_addBeat (grouped : d.Grouped) (opened : d.opened = some o) (beat : Beat) :
    ScenesGrow d.close.scenes (d.addBeat o beat).close.scenes := by
  obtain ⟨added, -, after⟩ := d.opened_addBeat o beat
  refine scenesGrow_close opened after (d.scenes_addBeat o beat) rfl ?_
  unfold Opened.closedBlock
  cases beats : o.snippet.beats with
  | nil => exact ⟨rfl, (Grows.refl Snippet.Counted.refl _).append_right _⟩
  | cons first rest =>
      have same := (grouped o opened).group_stays beats
      simp only [List.cons_append, members_addBeat, same]
      refine ⟨rfl, Grows.append_left (List.forall₂_same.mpr fun s _ => .refl s) (.last ?_ [])⟩
      refine ⟨rfl, fun _ known => known, ?_⟩
      rw [beats]
      exact List.prefix_append (first :: rest) [added]

theorem scenes_close_passBy (d : Draft) (origin : Origin) (tagged : Option Tagged) :
    (d.passBy origin tagged).close.scenes = d.close.scenes := by
  unfold passBy
  cases tagged with
  | none => exact scenes_close_congr rfl rfl rfl
  | some t => exact scenes_close_congr rfl rfl rfl

theorem scenesGrow_move (move : Move d d') (grouped : d.Grouped) :
    ScenesGrow d.close.scenes d'.close.scenes := by
  cases move with
  | emit e | note comment | cascade c | merging b =>
      exact .of_eq (scenes_close_congr rfl rfl rfl)
  | boundary => exact .of_eq (scenes_close_boundary d)
  | boundaryKeeping => exact .of_eq (scenes_close_boundaryKeeping d)
  | openLevel group => exact .of_eq (scenes_close_openLevel grouped group)
  | closeLevel => exact scenesGrow_closeLevel grouped
  | beginScene id origin => exact .of_eq (scenes_close_beginScene d id origin)
  | beginBlock id origin => exact .of_eq (scenes_close_beginBlock d id origin)
  | addBeat o beat opened => exact scenesGrow_addBeat grouped opened beat
  | passBy origin tagged => exact .of_eq (scenes_close_passBy d origin tagged)

/-! ## Records -/

/-- What is recorded besides the forest stays where it is, and snippets are only ever started. -/
structure RecordsTo (d d' : Draft) : Prop where
  taggedLines : d.taggedLines <+: d'.taggedLines
  events : d.events <+: d'.events
  started : d.started ≤ d'.started

theorem RecordsTo.of_eq (taggedLines : d'.taggedLines = d.taggedLines)
    (events : d'.events = d.events) (started : d'.started = d.started) : d.RecordsTo d' :=
  ⟨taggedLines ▸ List.prefix_rfl, events ▸ List.prefix_rfl, Nat.le_of_eq started.symm⟩

theorem RecordsTo.of_event (e : Event) (taggedLines : d'.taggedLines = d.taggedLines)
    (events : d'.events = d.events ++ [e]) (started : d'.started = d.started) : d.RecordsTo d' :=
  ⟨taggedLines ▸ List.prefix_rfl, events ▸ List.prefix_append _ _, Nat.le_of_eq started.symm⟩

theorem RecordsTo.trans {d'' : Draft} (first : d.RecordsTo d') (second : d'.RecordsTo d'') :
    d.RecordsTo d'' :=
  ⟨first.taggedLines.trans second.taggedLines, first.events.trans second.events,
    Nat.le_trans first.started second.started⟩

theorem recordsTo_boundary (d : Draft) : d.RecordsTo d.boundary := by
  unfold boundary
  split
  · exact .of_eq rfl rfl rfl
  · exact ⟨List.prefix_rfl, List.prefix_rfl, Nat.le_succ _⟩

theorem recordsTo_beginScene (d : Draft) (id : Text) (origin : Origin) :
    d.RecordsTo (d.beginScene id origin) := by
  constructor
  · simp [beginScene, emit]
  · simp [beginScene, emit]
  · simp [beginScene, emit]

theorem recordsTo_beginBlock (d : Draft) (id : Text) (origin : Origin) :
    d.RecordsTo (d.beginBlock id origin) := by
  unfold beginBlock
  dsimp only
  split
  · exact .of_event (.blockBegun id) rfl rfl rfl
  · exact ⟨List.prefix_rfl, List.prefix_append _ _, Nat.le_succ _⟩

theorem recordsTo_openLevel (d : Draft) (group : Bool) : d.RecordsTo (d.openLevel group) := by
  unfold openLevel
  refine RecordsTo.trans ?_ (recordsTo_boundary _)
  dsimp only
  split
  · exact .of_event _ rfl rfl rfl
  · exact .of_eq rfl rfl rfl

theorem recordsTo_closeLevel (d : Draft) : d.RecordsTo d.closeLevel := by
  unfold closeLevel
  dsimp only
  split
  · refine RecordsTo.trans (RecordsTo.trans ?_ (recordsTo_boundary _)) (.of_eq rfl rfl rfl)
    exact .of_event (.groupClosed d.groups) rfl rfl rfl
  · refine RecordsTo.trans ?_ (recordsTo_boundary _)
    exact .of_eq rfl rfl rfl

theorem recordsTo_addBeat (d : Draft) (o : Opened) (beat : Beat) :
    d.RecordsTo (d.addBeat o beat) := by
  unfold addBeat
  dsimp only
  split
  · refine ⟨List.prefix_rfl, ?_, Nat.le_refl _⟩
    exact (List.prefix_append d.events _).trans (List.prefix_append _ _)
  · exact .of_event _ rfl rfl rfl

theorem recordsTo_passBy (d : Draft) (origin : Origin) (tagged : Option Tagged) :
    d.RecordsTo (d.passBy origin tagged) := by
  unfold passBy
  cases tagged with
  | none => exact .of_eq rfl rfl rfl
  | some t => exact ⟨List.prefix_append _ _, List.prefix_append _ _, Nat.le_refl _⟩

theorem recordsTo_move (move : Move d d') : d.RecordsTo d' := by
  cases move with
  | emit e => exact .of_event e rfl rfl rfl
  | note comment | cascade c | merging b => exact .of_eq rfl rfl rfl
  | boundary => exact recordsTo_boundary d
  | boundaryKeeping =>
      have emptied := recordsTo_boundary { d with pending := [] }
      exact ⟨emptied.taggedLines, emptied.events, emptied.started⟩
  | openLevel group => exact recordsTo_openLevel d group
  | closeLevel => exact recordsTo_closeLevel d
  | beginScene id origin => exact recordsTo_beginScene d id origin
  | beginBlock id origin => exact recordsTo_beginBlock d id origin
  | addBeat o beat opened => exact recordsTo_addBeat d o beat
  | passBy origin tagged => exact recordsTo_passBy d origin tagged

/-! ## Runs -/

/-- What a draft and a later one have to do with each other. -/
structure GrowsTo (d d' : Draft) : Prop where
  scenes : ScenesGrow d.close.scenes d'.close.scenes
  records : d.RecordsTo d'

theorem GrowsTo.moves (moves : Moves d d') (grouped : d.Grouped) : d.GrowsTo d' := by
  have step : ∀ e e', Move e e' → e.Grouped ∧ d.GrowsTo e → e'.Grouped ∧ d.GrowsTo e' := by
    intro e e' move ⟨grouped, grows⟩
    exact ⟨grouped.move move, grows.scenes.trans (scenesGrow_move move grouped),
      grows.records.trans (recordsTo_move move)⟩
  exact (moves.keep step ⟨grouped, .of_eq rfl, .of_eq rfl rfl rfl⟩).2

theorem moves_upTo_append (lines more : List SourceLine) :
    Moves (upTo lines) (upTo (lines ++ more)) := by
  induction more using List.reverseRecOn with
  | nil => rw [List.append_nil]
  | append_singleton rest line ih =>
      rw [← List.append_assoc, upTo_concat]
      exact ih.trans (Moves.step _ line)

/-- **A script that goes on grows**: what it would be if it ended here is a beginning of what it
becomes. -/
theorem growsTo_upTo_append (lines more : List SourceLine) :
    (upTo lines).GrowsTo (upTo (lines ++ more)) :=
  .moves (moves_upTo_append lines more) (grouped_upTo lines)

end Draft

end Beatsheet

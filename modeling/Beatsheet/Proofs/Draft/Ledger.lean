/-
# Beatsheet.Proofs.Draft.Ledger — the ledger of a draft

A draft keeps its groups as a ledger does: whatever move is made, its ledger makes a step
(`step_ledger`). Most moves leave the ledger alone. A boundary does, although it puts the open
snippet away, for the ledger has had that since its first beat. So all that holds of sound ledgers
holds of the draft of every script (`sound_upTo`).
-/
import Beatsheet.Proofs.Draft.Growth
import Beatsheet.Proofs.Group.Ledger

set_option autoImplicit false

namespace Beatsheet

/-- What a snippet says of groups. -/
def Snippet.mark {ι : Type} (s : Snippet ι) : Mark :=
  ⟨⟨s.group, s.groupIndex⟩, s.groupCount⟩

namespace Draft

def ledger (d : Draft) : Ledger where
  away := d.away.map Snippet.mark
  here := d.here.map Snippet.mark
  groups := d.groups
  ongoing := d.groupDepth.isSome
  members := d.members + d.opened.elim 0 Opened.newMembers

variable {d e : Draft} {o : Opened}

theorem marks_ledger (d : Draft) :
    d.ledger.marks = (d.close.scenes.flatMap (·.snippets)).map Snippet.mark := by
  rw [snippets_close, List.map_append]
  rfl

theorem ledger_congr (scenes : e.scenes = d.scenes) (opened : e.opened = d.opened)
    (depth : e.groupDepth.isSome = d.groupDepth.isSome) (groups : e.groups = d.groups)
    (members : e.members = d.members) : e.ledger = d.ledger := by
  simp only [ledger, away, here, scenes, opened, depth, groups, members]

/-! ## Moves that leave the ledger alone -/

theorem away_congr (scenes : e.scenes = d.scenes) (opened : e.opened = d.opened) :
    e.away = d.away := by
  rw [away, scenes, opened, away]

theorem away_boundary (d : Draft) : d.boundary.away = d.away := by
  cases opened : d.opened with
  | none =>
      rw [boundary_of_none opened]
      exact away_congr rfl rfl
  | some o => simp [away, opened_boundary opened, opened]

/-- The fresh snippet of a boundary has no beats, and the one before it is in the ledger already. -/
theorem ledger_boundary (d : Draft) : d.boundary.ledger = d.ledger := by
  cases opened : d.opened with
  | none =>
      rw [boundary_of_none opened]
      exact ledger_congr rfl rfl rfl rfl rfl
  | some o =>
      have after := opened_boundary opened
      have here : d.boundary.here = d.here := by
        simp [here, after, opened, Opened.closedBlock, freshSnippet]
      have members : d.boundary.members + d.boundary.opened.elim 0 Opened.newMembers =
          d.members + d.opened.elim 0 Opened.newMembers := by
        simp [members_boundary, after, Opened.newMembers, freshSnippet]
      simp only [ledger, away_boundary, here, members, groups_boundary, groupDepth_boundary]

theorem ledger_passBy (d : Draft) (origin : Origin) (tagged : Option Tagged) :
    (d.passBy origin tagged).ledger = d.ledger := by
  unfold passBy
  cases tagged with
  | none => exact ledger_congr rfl rfl rfl rfl rfl
  | some t => exact ledger_congr rfl rfl rfl rfl rfl

/-! ## Levels of braces -/

theorem step_openLevel (grouped : d.Grouped) (group : Bool) :
    Ledger.Step d.ledger (d.openLevel group).ledger := by
  unfold openLevel
  rw [ledger_boundary]
  dsimp only
  split
  · rename_i starts
    simp only [Bool.and_eq_true, Option.isNone_iff_eq_none] at starts
    have shut : d.ledger.ongoing = false := by simp [ledger, starts.2]
    have begun := Ledger.Step.begins d.ledger shut
    cases opened : d.opened with
    | none => simpa [ledger, away, here, emit, opened] using begun
    | some o =>
        have was := grouped o opened
        simp only [starts.2, Option.isSome_none] at was
        have same := Opened.closedBlock_of_not_open was 0 d.members
        simpa [ledger, away, here, emit, opened, Opened.newMembers_of_not_open was, same] using begun
  · have same : ({ d with levels := d.levels.push d.pending, pending := [] } : Draft).ledger =
        d.ledger := ledger_congr rfl rfl rfl rfl rfl
    rw [same]
    exact .stay _

theorem mark_counted (d : Draft) (s : Snippet Nat) :
    (d.counted s).mark =
      if s.group = some d.groups then { s.mark with count := some d.members } else s.mark := by
  unfold counted
  by_cases last : s.group = some d.groups
  · simp [last, Snippet.mark]
  · simp [last, beq_false_of_ne]

/-- Right after a boundary all members that the open block has are told how many they are. -/
theorem ledger_countGroup (fresh : ∀ o, d.opened = some o → o.snippet.beats = []) :
    d.countGroup.ledger = { d.ledger with here := d.ledger.here.map d.ledger.told } := by
  have counted := d.opened_countGroup
  have scenes : d.countGroup.scenes = d.scenes := rfl
  cases opened : d.opened with
  | none =>
      rw [opened] at counted
      simp only [ledger, away, here, counted, opened, scenes, Option.map_none]
      rfl
  | some o =>
      have noBeats := fresh o opened
      have block : ∀ i, o.closedBlock i = o.block := fun i => by simp [Opened.closedBlock, noBeats]
      have noMember : o.newMembers = 0 := by simp [Opened.newMembers, noBeats]
      have told : ∀ s : Snippet Nat, (d.counted s).mark = d.ledger.told s.mark := by
        intro s
        rw [mark_counted]
        simp [Ledger.told, ledger, opened, noMember, Snippet.mark]
      rw [opened, Option.map_some] at counted
      have after : d.countGroup.here = o.block.snippets.map d.counted := by
        simp [here, counted, Opened.closedBlock, noBeats]
      have before : d.here = o.block.snippets := by simp [here, opened, block]
      simp only [ledger, after, before, List.map_map, Function.comp_def, told]
      simp only [away, counted, opened, scenes, Option.elim_some, Opened.newMembers]
      rfl

theorem step_closeLevel (d : Draft) : Ledger.Step d.ledger d.closeLevel.ledger := by
  unfold closeLevel
  dsimp only
  split
  · rename_i ends
    have goesOn : d.ledger.ongoing = true := by
      rw [Option.any_eq_true] at ends
      obtain ⟨depth, some_, -⟩ := ends
      simp [ledger, some_]
    rw [ledger_countGroup ?_, ledger_boundary]
    · exact .ends d.ledger goesOn
    · intro o' after
      cases opened : d.opened with
      | none => simp [boundary, note, emit, opened] at after
      | some o =>
          rw [opened_boundary (by exact opened)] at after
          obtain rfl := Option.some.inj after
          rfl
  · have same : ({ d with levels := d.levels.pop } : Draft).ledger = d.ledger :=
      ledger_congr rfl rfl rfl rfl rfl
    rw [ledger_boundary, same]
    exact .stay _

/-! ## Headers -/

section Headers

variable (d : Draft) (id : Text) (origin : Origin)

/-- A header leaves the snippets of the block before it behind. -/
theorem away_beginScene : (d.beginScene id origin).away = d.away ++ d.here := by
  rw [← snippets_close]
  simp [beginScene, emit, away, Scene.snippets]

theorem here_beginScene : (d.beginScene id origin).here = [] := by
  simp [beginScene, emit, here, Opened.closedBlock, freshSnippet]

theorem away_beginBlock : (d.beginBlock id origin).away = d.away ++ d.here := by
  unfold beginBlock
  cases opened : d.opened with
  | none => simp [emit, opened, away, here]
  | some o =>
      have scene := o.snippets_closedScene d.members
      simp [emit, opened, away, here, scene]

theorem here_beginBlock : (d.beginBlock id origin).here = [] := by
  unfold beginBlock
  cases d.opened with
  | none => simp [emit, here]
  | some o => simp [emit, here, Opened.closedBlock, freshSnippet]

theorem ledger_beginScene :
    (d.beginScene id origin).ledger =
      { d.ledger with away := d.ledger.away ++ d.ledger.here, here := [] } := by
  have members : (d.beginScene id origin).members +
      (d.beginScene id origin).opened.elim 0 Opened.newMembers =
        d.members + d.opened.elim 0 Opened.newMembers :=
    d.members_close
  simp only [ledger, away_beginScene, here_beginScene, members, List.map_append, List.map_nil,
    Ledger.mk.injEq, true_and, and_true]
  exact ⟨d.groups_close, congrArg Option.isSome d.groupDepth_close⟩

theorem ledger_beginBlock :
    (d.beginBlock id origin).ledger =
      { d.ledger with away := d.ledger.away ++ d.ledger.here, here := [] } := by
  have kept : (d.beginBlock id origin).groups = d.groups ∧
      (d.beginBlock id origin).groupDepth = d.groupDepth := by
    unfold beginBlock
    dsimp only
    split <;> exact ⟨rfl, rfl⟩
  have members : (d.beginBlock id origin).members +
      (d.beginBlock id origin).opened.elim 0 Opened.newMembers =
        d.members + d.opened.elim 0 Opened.newMembers := by
    unfold beginBlock
    cases d.opened with
    | none => simp [emit]
    | some o => simp [emit, Opened.newMembers, freshSnippet]
  simp only [ledger, away_beginBlock, here_beginBlock, members, kept, List.map_append,
    List.map_nil]

end Headers

/-! ## Beats -/

/-- The first beat of a snippet puts it into the ledger, and more beats do not matter. -/
theorem step_addBeat (grouped : d.Grouped) (opened : d.opened = some o) (beat : Beat) :
    Ledger.Step d.ledger (d.addBeat o beat).ledger := by
  have was := grouped o opened
  have group := was.group
  obtain ⟨added, -, after⟩ := d.opened_addBeat o beat
  cases beats : o.snippet.beats with
  | nil =>
      have none_ : o.snippet.group = none := by simpa [beats] using group
      cases goesOn : d.groupDepth.isSome with
      | false =>
          have step := Ledger.Step.outside d.ledger goesOn
          simpa [ledger, away, here, after, opened, goesOn, Opened.closedBlock, Opened.newMembers,
            beats, none_, Ledger.put, Snippet.mark, was.count] using step
      | true =>
          have step := Ledger.Step.member d.ledger goesOn
          simpa [ledger, away, here, after, opened, goesOn, Opened.closedBlock, Opened.newMembers,
            beats, none_, Ledger.put, Snippet.mark, was.count] using step
  | cons first rest =>
      have same := was.group_stays beats
      have kept : (d.addBeat o beat).ledger = d.ledger := by
        simp [ledger, away, here, after, opened, same, Opened.closedBlock, Opened.newMembers, beats,
          Snippet.mark]
      rw [kept]
      exact .stay d.ledger

/-! ## Runs -/

/-- **Every move of a draft is a step of its ledger.** -/
theorem step_ledger (move : Move d e) (grouped : d.Grouped) : Ledger.Step d.ledger e.ledger := by
  have stay : e.ledger = d.ledger → Ledger.Step d.ledger e.ledger := by
    intro same
    rw [same]
    exact .stay d.ledger
  cases move with
  | emit event | note comment | cascade c | merging b =>
      exact stay (ledger_congr rfl rfl rfl rfl rfl)
  | boundary => exact stay (ledger_boundary d)
  | boundaryKeeping =>
      have kept := ledger_boundary { d with pending := [] }
      exact stay ((ledger_congr rfl rfl rfl rfl rfl).trans kept)
  | openLevel group => exact step_openLevel grouped group
  | closeLevel => exact step_closeLevel d
  | beginScene id origin =>
      rw [ledger_beginScene]
      exact .header d.ledger
  | beginBlock id origin =>
      rw [ledger_beginBlock]
      exact .header d.ledger
  | addBeat o beat opened => exact step_addBeat grouped opened beat
  | passBy origin tagged => exact stay (ledger_passBy d origin tagged)

theorem sound_moves (moves : Moves d e) (grouped : d.Grouped) (sound : d.ledger.Sound) :
    e.ledger.Sound := by
  have step : ∀ f f', Move f f' → f.Grouped ∧ f.ledger.Sound → f'.Grouped ∧ f'.ledger.Sound := by
    rintro f f' move ⟨grouped, sound⟩
    exact ⟨grouped.move move, sound.step (step_ledger move grouped)⟩
  exact (moves.keep step ⟨grouped, sound⟩).2

/-- **The ledger of every script is sound.** -/
theorem sound_upTo (lines : List SourceLine) : (upTo lines).ledger.Sound := by
  have moves := moves_upTo_append [] lines
  exact sound_moves moves grouped_empty Ledger.sound_empty

end Draft

end Beatsheet

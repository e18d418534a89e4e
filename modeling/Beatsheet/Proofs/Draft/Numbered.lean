/-
# Beatsheet.Proofs.Draft.Numbered — snippets are named by the order of their start

Of every snippet that is put away, and of the open one, the name in the draft is less than the
number of snippets started (`numbered_upTo`), so enough final names are issued for all. What a move
does to the names is said once: it leaves those of the put away snippets or adds that of the open
one (`ids_move`), and a snippet it opens has the next name (`opened_move`). So the names ascend from
snippet to snippet (`ascending_upTo`), and no two snippets share one.
-/
import Beatsheet.Proofs.Draft.Growth

set_option autoImplicit false

namespace Beatsheet

namespace Draft

variable {d d' : Draft} {o : Opened}

/-- The names of the snippets that the script has if it ends here. -/
def ids (d : Draft) : List Nat :=
  (d.close.scenes.flatMap (·.snippets)).map (·.id)

theorem ids_congr (same : d'.close.scenes = d.close.scenes) : d'.ids = d.ids := by
  rw [ids, same, ids]

theorem ids_of_opened (opened : d.opened = some o) :
    d.ids =
      (d.scenes.flatMap (·.snippets) ++ o.scene.snippets ++ o.block.snippets).map (·.id) ++
        if o.snippet.beats.isEmpty then [] else [o.snippet.id] := by
  have block : (o.closedBlock d.members).snippets.map (·.id) =
      o.block.snippets.map (·.id) ++ if o.snippet.beats.isEmpty then [] else [o.snippet.id] := by
    unfold Opened.closedBlock
    cases o.snippet.beats <;> simp
  rw [ids, snippets_close, away, here, opened]
  simp only [Option.elim_some, List.map_append, block, List.append_assoc]

theorem ids_countGroup (d : Draft) : d.countGroup.ids = d.ids := by
  cases opened : d.opened with
  | none => exact ids_congr (scenes_close_congr rfl (by simp [countGroup, opened]) rfl)
  | some o =>
      have after := d.opened_countGroup
      rw [opened, Option.map_some] at after
      rw [ids_of_opened opened, ids_of_opened after]
      simp only [List.map_append, List.map_map, Function.comp_def, id_counted]
      rfl

theorem ids_closeLevel (d : Draft) : d.closeLevel.ids = d.ids := by
  unfold closeLevel
  dsimp only
  split
  · rw [ids_countGroup]
    refine ids_congr ((scenes_close_boundary _).trans ?_)
    exact scenes_close_congr rfl rfl rfl
  · refine ids_congr ((scenes_close_boundary _).trans ?_)
    exact scenes_close_congr rfl rfl rfl

theorem ids_addBeat (opened : d.opened = some o) (beat : Beat) :
    (d.addBeat o beat).ids = d.ids ++ if o.snippet.beats.isEmpty then [o.snippet.id] else [] := by
  obtain ⟨added, -, after⟩ := d.opened_addBeat o beat
  rw [ids_of_opened opened, ids_of_opened after, scenes_addBeat]
  cases o.snippet.beats <;> simp

/-- A move leaves the names, or adds that of the open snippet with its first beat. -/
theorem ids_move (move : Move d d') (grouped : d.Grouped) :
    d'.ids = d.ids ∨ ∃ o, d.opened = some o ∧ o.snippet.beats = [] ∧
      d'.ids = d.ids ++ [o.snippet.id] ∧ ∀ o', d'.opened = some o' → o'.snippet.beats ≠ [] := by
  cases move with
  | emit e | note comment | cascade c | merging b =>
      exact .inl (ids_congr (scenes_close_congr rfl rfl rfl))
  | boundary => exact .inl (ids_congr (scenes_close_boundary d))
  | boundaryKeeping => exact .inl (ids_congr (scenes_close_boundaryKeeping d))
  | openLevel group => exact .inl (ids_congr (scenes_close_openLevel grouped group))
  | closeLevel => exact .inl (ids_closeLevel d)
  | beginScene id origin => exact .inl (ids_congr (scenes_close_beginScene d id origin))
  | beginBlock id origin => exact .inl (ids_congr (scenes_close_beginBlock d id origin))
  | addBeat o beat opened =>
      have ids := ids_addBeat opened beat
      cases empty : o.snippet.beats.isEmpty with
      | true =>
          refine .inr ⟨o, opened, List.isEmpty_iff.mp empty, by simpa [empty] using ids, ?_⟩
          intro o' after
          obtain ⟨added, -, eq⟩ := d.opened_addBeat o beat
          obtain rfl := Option.some.inj (eq.symm.trans after)
          exact List.concat_ne_nil added o.snippet.beats
      | false => exact .inl (by simpa [empty] using ids)
  | passBy origin tagged => exact .inl (ids_congr (scenes_close_passBy d origin tagged))

/-- The open snippet is a new one with the next name. -/
def Restarts (d d' : Draft) : Prop :=
  ∀ o', d'.opened = some o' → o'.snippet.id = d.started ∧ d.started < d'.started

theorem restarts_boundary (d : Draft) : d.Restarts d.boundary := by
  intro o' after
  cases opened : d.opened with
  | none => simp [boundary, opened] at after
  | some o =>
      rw [opened_boundary opened] at after
      obtain rfl := Option.some.inj after
      simp [boundary, opened, freshSnippet]

theorem restarts_beginBlock (d : Draft) (id : Text) (origin : Origin) :
    d.Restarts (d.beginBlock id origin) := by
  intro o' after
  unfold beginBlock at after ⊢
  cases opened : d.opened with
  | none => simp [emit, opened] at after
  | some o =>
      simp only [emit, opened, Option.some.injEq] at after
      subst after
      simp [emit, freshSnippet]

theorem restarts_openLevel (d : Draft) (group : Bool) : d.Restarts (d.openLevel group) := by
  unfold openLevel
  dsimp only
  split
  all_goals exact restarts_boundary _

theorem restarts_closeLevel (d : Draft) : d.Restarts d.closeLevel := by
  unfold closeLevel
  dsimp only
  split
  · intro o' after
    obtain ⟨o, opened, rfl⟩ := Option.map_eq_some_iff.mp after
    exact restarts_boundary _ o opened
  · exact restarts_boundary _

/-- A snippet that is open after a move was open before or is a new one with the next name. -/
theorem opened_move (move : Move d d') :
    d.Restarts d' ∨
      ∀ o', d'.opened = some o' → ∃ o, d.opened = some o ∧ o'.snippet.id = o.snippet.id ∧
        (o'.snippet.beats = [] → o.snippet.beats = []) := by
  cases move with
  | emit e | note comment | cascade c | merging b =>
      exact .inr fun o' after => ⟨o', after, rfl, id⟩
  | boundary => exact .inl (restarts_boundary d)
  | boundaryKeeping => exact .inl (restarts_boundary { d with pending := [] })
  | openLevel group => exact .inl (restarts_openLevel d group)
  | closeLevel => exact .inl (restarts_closeLevel d)
  | beginScene id origin =>
      refine .inl fun o' after => ?_
      obtain rfl := Option.some.inj after
      exact ⟨started_close d, Nat.lt_succ_of_le (Nat.le_of_eq (started_close d).symm)⟩
  | beginBlock id origin => exact .inl (restarts_beginBlock d id origin)
  | addBeat o beat opened =>
      refine .inr fun o' after => ⟨o, opened, ?_⟩
      obtain ⟨added, -, eq⟩ := d.opened_addBeat o beat
      obtain rfl := Option.some.inj (eq.symm.trans after)
      exact ⟨rfl, fun empty => absurd empty (List.concat_ne_nil added o.snippet.beats)⟩
  | passBy origin tagged =>
      refine .inr fun o' after => ⟨o', ?_, rfl, id⟩
      unfold passBy at after
      cases tagged with
      | none => exact after
      | some t => exact after

/-- Every name in the draft is less than the number of snippets started. -/
structure Numbered (d : Draft) : Prop where
  ids : ∀ n ∈ d.ids, n < d.started
  opened : ∀ o, d.opened = some o → o.snippet.id < d.started

theorem Numbered.move (move : Move d d') (grouped : d.Grouped) (numbered : d.Numbered) :
    d'.Numbered := by
  have started := (recordsTo_move move).started
  constructor
  · intro n member
    rcases ids_move move grouped with same | ⟨o, opened, -, added, -⟩
    · rw [same] at member
      exact Nat.lt_of_lt_of_le (numbered.ids n member) started
    · rw [added] at member
      rcases List.mem_append.mp member with old | new
      · exact Nat.lt_of_lt_of_le (numbered.ids n old) started
      · rw [List.mem_singleton] at new
        exact new ▸ Nat.lt_of_lt_of_le (numbered.opened o opened) started
  · intro o' after
    rcases opened_move move with fresh | stays
    · obtain ⟨id, more⟩ := fresh o' after
      exact id ▸ more
    · obtain ⟨o, opened, id, -⟩ := stays o' after
      exact id ▸ Nat.lt_of_lt_of_le (numbered.opened o opened) started

/-- The names are in ascending order, and an open snippet without beats comes behind them all. -/
structure Ascending (d : Draft) : Prop where
  ids : d.ids.Pairwise (· < ·)
  opened : ∀ o, d.opened = some o → o.snippet.beats = [] → ∀ n ∈ d.ids, n < o.snippet.id

theorem Ascending.move (move : Move d d') (grouped : d.Grouped) (numbered : d.Numbered)
    (ascending : d.Ascending) : d'.Ascending := by
  rcases ids_move move grouped with same | ⟨o, opened, bare, added, filled⟩
  · constructor
    · exact same ▸ ascending.ids
    · intro o' after empty n member
      rw [same] at member
      rcases opened_move move with fresh | stays
      · rw [(fresh o' after).1]
        exact numbered.ids n member
      · obtain ⟨o, opened, id, bare⟩ := stays o' after
        rw [id]
        exact ascending.opened o opened (bare empty) n member
  · constructor
    · rw [added, List.pairwise_append]
      refine ⟨ascending.ids, List.pairwise_singleton _ _, fun n member last isLast => ?_⟩
      rw [List.mem_singleton.mp isLast]
      exact ascending.opened o opened bare n member
    · intro o' after empty
      exact absurd empty (filled o' after)

theorem numbered_upTo (lines : List SourceLine) : (upTo lines).Numbered := by
  have both : (upTo lines).Grouped ∧ (upTo lines).Numbered := by
    refine upTo_induction (P := fun d => d.Grouped ∧ d.Numbered) ?_ ?_ lines
    · exact ⟨grouped_empty, by simp [ids, close], by simp⟩
    · rintro d d' move ⟨grouped, numbered⟩
      exact ⟨grouped.move move, numbered.move move grouped⟩
  exact both.2

/-- **Snippets stand in the order in which they were started.** -/
theorem ascending_upTo (lines : List SourceLine) : (upTo lines).Ascending := by
  have all : (upTo lines).Grouped ∧ (upTo lines).Numbered ∧ (upTo lines).Ascending := by
    refine upTo_induction (P := fun d => d.Grouped ∧ d.Numbered ∧ d.Ascending) ?_ ?_ lines
    · exact ⟨grouped_empty, ⟨by simp [ids, close], by simp⟩, ⟨by simp [ids, close], by simp⟩⟩
    · rintro d d' move ⟨grouped, numbered, ascending⟩
      exact ⟨grouped.move move, numbered.move move grouped, ascending.move move grouped numbered⟩
  exact all.2.2

end Draft

end Beatsheet

/-
# Beatsheet.Proofs.Draft.Header — a knot header begins anew

A knot header puts away what is open, and it does not matter whether that has been put away before
(`beginScene_close`, `close_turned`). What the cascade holds for the scene and the block is lost with
it. So where nothing else is left over (`Draft.Quiet`), a draft goes on from a knot header as an
empty one does behind the past that it has become (`step_knot`). Only two registers are left as they
are: the number of members and whether alternatives are to be merged.
-/
import Beatsheet.Proofs.Draft.Behind
import Beatsheet.Proofs.Draft.Clear
import Beatsheet.Proofs.Draft.Idle

set_option autoImplicit false

namespace Beatsheet

/-! ## Headers -/

/-- A line with the text of a knot header is neither speech nor a gather. -/
theorem Turn.ofLine?_of_knot {line id : Text} (found : Line.knot? line = some id) :
    Turn.ofLine? line ≠ some .speech ∧ Turn.ofLine? line ≠ some .gather := by
  obtain ⟨rest, start⟩ : ∃ rest, Text.trimStart line = '=' :: rest := by
    unfold Line.knot? at found
    split at found
    · exact ⟨_, ‹_›⟩
    · cases found
  obtain ⟨tail, trimmed⟩ := Text.trim_eq_cons start (by decide)
  have dash : Line.isDashSpeech line = false := by simp [Line.isDashSpeech, trimmed]
  have gather : Line.isGather line = false := by simp [Line.isGather, trimmed]
  unfold Turn.ofLine?
  cases Brace.ofLine? line with
  | some brace => cases brace <;> simp
  | none =>
      simp only [dash, gather, Bool.false_eq_true, if_false]
      split
      · simp
      · split <;> simp

namespace SourceLine

variable {line : SourceLine} {heading : Heading}

theorem kind_of_knot (knot : line.knot? = some heading) :
    ∃ turn, line.kind = .content turn (.knot heading.id) ∧ heading.origin = line.origin := by
  unfold knot? at knot
  split at knot
  · rename_i turn id kind
    cases knot
    exact ⟨turn, kind, rfl⟩
  · cases knot

theorem turn?_of_knot (knot : line.knot? = some heading) :
    line.turn? ≠ some .speech ∧ line.turn? ≠ some .gather := by
  obtain ⟨turn, kind, -⟩ := kind_of_knot knot
  obtain ⟨turns, role⟩ := content_eq kind
  have found : Line.knot? (Reading.ofLine line.text).body = some heading.id := by
    unfold Role.ofLine at role
    split at role
    · split at role <;> cases role
    · split at role
      · rename_i id found
        rw [found, Role.knot.inj role]
      · split at role
        · cases role
        · split at role <;> cases role
  have told : line.turn? = Turn.ofLine? (Reading.ofLine line.text).body := by
    rw [turn?, kind, ← turns]
  rw [told]
  exact Turn.ofLine?_of_knot found

end SourceLine

namespace Draft

variable {d : Draft} {line : SourceLine} {heading : Heading}

theorem step_of_knot (knot : line.knot? = some heading) :
    d.step line = (d.turned line).beginScene heading.id heading.origin := by
  obtain ⟨turn, kind, origin⟩ := SourceLine.kind_of_knot knot
  rw [step_eq, kind, origin]
  rfl

/-! ## Putting away first -/

theorem close_of_none (opened : d.opened = none) : d.close = d := by
  simp only [close, opened]

theorem closeLevel_of_shut (shut : d.groupDepth = none) :
    d.closeLevel = ({ d with levels := d.levels.pop } : Draft).boundary := by
  simp only [closeLevel, shut, Option.any_none, Bool.false_eq_true, if_false]

/-- What a turn puts away may have been put away before, but for the snippet started then. -/
theorem close_turn (grouped : d.Grouped) (shut : d.groupDepth = none) (turn : Turn) :
    (d.turn turn).close = { d.close.turn turn with started := (d.turn turn).started } := by
  cases opened : d.opened with
  | none =>
      have outside : (d.turn turn).opened = none := by
        rw [← Option.not_isSome_iff_eq_none, isSome_opened_turn, opened]
        simp
      rw [close_of_none outside, close_of_none opened]
  | some o =>
      have was := grouped o opened
      rw [shut] at was
      cases turn with
      | opening group =>
          cases group with
          | false =>
              simp only [Draft.turn, openLevel, close, boundary, opened]
              rfl
          | true =>
              -- The count is reset before the open snippet is put away, but that is no member.
              have same := Opened.closedScene_of_not_open was 0 d.members
              have none_ := Opened.newMembers_of_not_open was
              simp only [Draft.turn, openLevel, close, boundary, opened, shut, emit, Bool.true_and,
                Option.isNone_none, if_true, none_]
              rw [← same]
              rfl
      | closing =>
          rw [Draft.turn, Draft.turn, closeLevel_of_shut shut,
            closeLevel_of_shut (d.groupDepth_close.trans shut)]
          simp only [close, boundary, opened]
          rfl
      | speech =>
          cases active : d.cascade.active with
          | false =>
              simp only [Draft.turn, close, boundary, opened, active, Bool.false_eq_true, if_false]
              rfl
          | true =>
              simp only [Draft.turn, boundaryKeeping, close, boundary, opened, active, if_true]
              rfl
      | choice text =>
          simp only [Draft.turn, close, boundary, opened, note]
          rfl
      | gather =>
          cases merging : d.merging with
          | false =>
              simp only [Draft.turn, close, boundary, opened, merging, Bool.false_eq_true, if_false]
              rfl
          | true =>
              simp only [Draft.turn, close, boundary, opened, merging, note, if_true]
              rfl
      | other =>
          simp only [Draft.turn, close, boundary, opened]
          rfl

theorem close_turned (grouped : d.Grouped) (shut : d.groupDepth = none) (line : SourceLine) :
    (d.turned line).close =
      { d.close.turned line with started := (d.turned line).started } := by
  have alike := d.alike_heard line
  have heard : (d.heard line).close = d.close.heard line := by
    unfold heard
    cases line.kind
    all_goals cases (Reading.ofLine line.text).comment
    all_goals cases opened : d.opened <;> simp [close, opened, note]
  unfold turned
  cases line.turn? with
  | none =>
      have started := (d.heard line).started_close
      show (d.heard line).close = { d.close.heard line with started := (d.heard line).started }
      rw [← heard, ← started]
  | some turn =>
      have turned := close_turn (grouped.congr alike.opened alike.groups alike.groupDepth)
        (alike.groupDepth.trans shut) turn
      rw [Option.elim_some, turned, heard]
      rfl

/-- A turn puts nothing away and starts no snippet where none is open. -/
theorem turn_of_none (outside : d.opened = none) (shut : d.groupDepth = none) (turn : Turn) :
    (d.turn turn).scenes = d.scenes ∧ (d.turn turn).opened = none ∧
      (d.turn turn).started = d.started := by
  have bounded : ∀ e : Draft, e.opened = none →
      e.boundary.scenes = e.scenes ∧ e.boundary.opened = none ∧ e.boundary.started = e.started := by
    intro e none_
    rw [boundary_of_none none_]
    exact ⟨rfl, none_, rfl⟩
  cases turn with
  | opening group =>
      simp only [Draft.turn, openLevel]
      split
      · exact bounded _ outside
      · exact bounded _ outside
  | closing =>
      rw [Draft.turn, closeLevel_of_shut shut]
      exact bounded { d with levels := d.levels.pop } outside
  | speech =>
      simp only [Draft.turn]
      split
      · exact bounded { d with pending := [] } outside
      · exact bounded { d with merging := false } outside
  | choice text => exact bounded (({ d with merging := true } : Draft).note _) outside
  | gather =>
      simp only [Draft.turn]
      split
      · exact bounded (({ d with merging := false } : Draft).note mergeMark) outside
      · exact bounded d outside
  | other => exact bounded { d with merging := false } outside

theorem turned_of_none (outside : d.opened = none) (shut : d.groupDepth = none)
    (line : SourceLine) :
    (d.turned line).scenes = d.scenes ∧ (d.turned line).opened = none ∧
      (d.turned line).started = d.started := by
  have alike := d.alike_heard line
  have started : (d.heard line).started = d.started := by
    unfold Draft.heard
    cases line.kind
    all_goals cases (Reading.ofLine line.text).comment <;> rfl
  unfold turned
  cases line.turn? with
  | none => exact ⟨alike.scenes, alike.opened.trans outside, started⟩
  | some turn =>
      obtain ⟨scenes, opened, same⟩ :=
        turn_of_none (alike.opened.trans outside) (alike.groupDepth.trans shut) turn
      exact ⟨scenes.trans alike.scenes, opened, same.trans started⟩

theorem turned_behind {p : Past} (d : Draft) (line : SourceLine) :
    (d.behind p).turned line = (d.turned line).behind p := by
  have heard : (d.behind p).heard line = (d.heard line).behind p := by
    unfold Draft.heard
    cases line.kind
    all_goals cases (Reading.ofLine line.text).comment <;> rfl
  unfold turned
  rw [heard]
  cases line.turn? with
  | none => rfl
  | some turn => exact turn_behind _ turn

theorem beginScene_close (d : Draft) (id : Text) (origin : Origin) :
    d.close.beginScene id origin = d.beginScene id origin := by
  have twice := close_of_none d.opened_close
  simp only [beginScene, twice, cascade_close]

/-! ## What a header does not ask for -/

/-- Only speech asks the cascade. -/
theorem turn_cascade (d : Draft) (c : Cascade) {turn : Turn} (silent : turn ≠ .speech) :
    ({ d with cascade := c } : Draft).turn turn = { d.turn turn with cascade := c } := by
  have bounded := fun e : Draft => e.boundary_cascade c
  cases turn with
  | opening group =>
      simp only [Draft.turn, openLevel]
      rw [← bounded]
      split <;> rfl
  | closing =>
      simp only [Draft.turn, closeLevel]
      split
      · exact congrArg countGroup <| bounded
          { (({ d with groupDepth := none, merging := true } : Draft).note mergeMark).emit
              (.groupClosed d.groups) with levels := d.levels.pop }
      · exact bounded { d with levels := d.levels.pop }
  | speech => exact absurd rfl silent
  | choice text => exact bounded (({ d with merging := true } : Draft).note (choiceMark text))
  | gather =>
      simp only [Draft.turn]
      split
      · exact bounded (({ d with merging := false } : Draft).note mergeMark)
      · exact bounded d
  | other => exact bounded { d with merging := false }

theorem beginScene_cascade (d : Draft) {c : Cascade}
    (same : c.beginScene = d.cascade.beginScene) (id : Text) (origin : Origin) :
    ({ d with cascade := c } : Draft).beginScene id origin = d.beginScene id origin := by
  unfold beginScene
  rw [same]
  cases opened : d.opened with
  | none => simp only [close, opened]
  | some o => simp only [close, opened]

/-- A header does not ask what the cascade holds for the scene before it. -/
theorem step_cascade (d : Draft) {c : Cascade}
    (same : c.markContent.beginScene = d.cascade.markContent.beginScene)
    (knot : line.knot? = some heading) :
    ({ d with cascade := c } : Draft).step line = d.step line := by
  obtain ⟨turn, kind, -⟩ := SourceLine.kind_of_knot knot
  have heard : ∀ c : Cascade, ({ d with cascade := c } : Draft).heard line =
      { d.heard line with cascade := c.markContent } := by
    intro c
    unfold Draft.heard
    rw [kind]
    cases (Reading.ofLine line.text).comment <;> rfl
  have turned : ∀ c : Cascade, ({ d with cascade := c } : Draft).turned line =
      { d.turned line with cascade := c.markContent } := by
    intro c
    have silent := (SourceLine.turn?_of_knot knot).1
    unfold Draft.turned
    rw [heard]
    cases reads : line.turn? with
    | none => rfl
    | some turn =>
        refine turn_cascade _ _ ?_
        rintro rfl
        exact silent reads
  have marked : (d.turned line).cascade = d.cascade.markContent :=
    congrArg Draft.cascade (turned d.cascade)
  rw [step_of_knot knot, step_of_knot knot, turned]
  exact beginScene_cascade _ (same.trans (congrArg Cascade.beginScene marked.symm)) _ _

/-! ## Nothing left over -/

/-- Nothing is left over for what comes behind a header: no level of braces and no group is open, no
comment is pending, and the document has neither tags nor the annotation switched on. -/
structure Quiet (d : Draft) : Prop where
  clear : d.Clear
  pending : d.pending = []
  document : d.cascade.document = []
  inactive : d.cascade.documentActive = false

/-- The past that a draft has become once all is put away. -/
def past (d : Draft) (started : Nat) : Past where
  scenes := d.close.scenes
  taggedLines := d.taggedLines
  events := d.events
  groups := d.groups
  started := started

/-- A draft that is put away is an empty one behind its past, but for the cascade and two
registers. -/
theorem Quiet.close_eq (quiet : d.Quiet) (stacked : d.levels.Stacked) :
    d.close =
      ({ ({} : Draft).set d.close.members d.merging with cascade := d.cascade }).behind
        (d.past d.started) := by
  have levels := stacked.eq_empty quiet.clear.depth
  have group := quiet.clear.group
  have pending := quiet.pending
  cases opened : d.opened with
  | none =>
      cases d
      simp_all [close, behind, set, past]
  | some o => simp [close, opened, behind, set, past, levels, group, pending]

theorem Quiet.beginScene (quiet : d.Quiet) :
    d.cascade.markContent.beginScene = ({} : Cascade).markContent.beginScene := by
  simp [Cascade.markContent, Cascade.beginScene, quiet.document, quiet.inactive]

/-- **A knot header begins anew.** Where nothing is left over, it does the same to a draft as to an
empty one that is put behind the past of the draft, if the two registers are set alike. -/
theorem step_knot (quiet : d.Quiet) (stacked : d.levels.Stacked) (grouped : d.Grouped)
    (knot : line.knot? = some heading) :
    d.step line =
      ((({} : Draft).set d.close.members d.merging).step line).behind
        (d.past (d.turned line).started) := by
  let new : Draft := { ({} : Draft).set d.close.members d.merging with cascade := d.cascade }
  obtain ⟨scenes, opened, started⟩ := turned_of_none (d := new) rfl rfl line
  -- An empty draft starts no snippet when the flow is turned, so it is the past that has to count
  -- the one which a boundary has started.
  have behind : { (new.turned line).behind (d.past d.started) with
        started := (d.turned line).started } =
      (new.turned line).behind (d.past (d.turned line).started) := by
    simp only [Draft.behind, past, scenes, opened, started]
    rfl
  calc d.step line
    _ = (d.turned line).beginScene heading.id heading.origin := step_of_knot knot
    _ = (d.turned line).close.beginScene heading.id heading.origin :=
        (beginScene_close _ _ _).symm
    _ = ({ (new.turned line).behind (d.past d.started) with
          started := (d.turned line).started } : Draft).beginScene heading.id heading.origin := by
        rw [close_turned grouped quiet.clear.group, quiet.close_eq stacked, turned_behind]
    _ = ((new.turned line).beginScene heading.id heading.origin).behind
          (d.past (d.turned line).started) := by rw [behind, beginScene_behind]
    _ = (new.step line).behind (d.past (d.turned line).started) := by rw [step_of_knot knot]
    _ = _ := by rw [step_cascade _ quiet.beginScene knot]

end Draft

end Beatsheet

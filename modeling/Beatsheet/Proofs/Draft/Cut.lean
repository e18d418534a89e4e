/-
# Beatsheet.Proofs.Draft.Cut — groups cut by headers

What is said at the end of a group reaches the open block only. A header inside a group cuts it if
the block that it closes holds members: these are left behind without their count
(`Site.cutsGroup`). Nothing else leaves members behind (`away_step`), so a script has left some just
if one of its lines has cut a group (`exists_open_away_iff`).
-/
import Beatsheet.Proofs.Draft.Ledger
import Beatsheet.Proofs.Draft.Turned

set_option autoImplicit false

namespace Beatsheet

/-- Whether the line is a header of a knot or a stitch. -/
def SourceLine.isHeader (line : SourceLine) : Bool :=
  line.knot?.isSome || line.stitch?.isSome

namespace Draft

/-- Whether a group is open and the open block has a member of it. -/
def holdsMember (d : Draft) : Bool :=
  d.groupDepth.isSome && d.here.any (·.group == some d.groups)

end Draft

/-- Whether the line is a header, and finds a member of the open group in the open block once it has
turned the flow. -/
def Site.cutsGroup (s : Site) : Bool :=
  s.line.isHeader && (s.draft.turned s.line).holdsMember

namespace Draft

variable {d e : Draft}

/-! ## What is left behind -/

theorem away_countGroup (d : Draft) : d.countGroup.away = d.away := by
  have counted := d.opened_countGroup
  have scenes : d.countGroup.scenes = d.scenes := rfl
  rw [away, counted, scenes, away]
  cases d.opened <;> rfl

theorem away_turned (d : Draft) (line : SourceLine) : (d.turned line).away = d.away := by
  have heard := d.alike_heard line
  have same := away_congr heard.scenes heard.opened
  unfold turned
  cases line.turn? with
  | none => exact same
  | some turn =>
      obtain ⟨e, scenes, opened, ⟨pending, eq⟩ | eq⟩ := (d.heard line).turn_cases turn
      all_goals rw [Option.elim_some, eq, ← same, ← away_congr scenes opened]
      · exact (away_congr rfl rfl).trans (away_boundary e)
      · rw [away_countGroup, away_boundary]

/-- Only a header leaves snippets behind, and it leaves all of the open block. -/
theorem away_step (d : Draft) (line : SourceLine) :
    (d.step line).away = d.away ++ if line.isHeader then (d.turned line).here else [] := by
  have turned := d.away_turned line
  have plays := d.plays_step line
  generalize d.step line = after at plays
  cases plays with
  | clause _ knot stitch _ =>
      have header : line.isHeader = false := by simp [SourceLine.isHeader, knot, stitch]
      simp [header, away_boundary, turned]
  | knot heading knot _ =>
      have header : line.isHeader = true := by simp [SourceLine.isHeader, knot]
      simp [header, away_beginScene, turned]
  | stitch heading _ stitch _ =>
      have header : line.isHeader = true := by simp [SourceLine.isHeader, stitch]
      simp [header, away_beginBlock, turned]
  | beat e o beat alike opened _ knot stitch _ =>
      have header : line.isHeader = false := by simp [SourceLine.isHeader, knot, stitch]
      obtain ⟨added, -, after⟩ := e.opened_addBeat o beat
      have kept : (e.addBeat o beat).away = e.away := by simp [away, after, opened]
      rw [kept, away_congr alike.scenes alike.opened, turned]
      simp [header]
  | rest _ alike knot stitch _ =>
      have header : line.isHeader = false := by simp [SourceLine.isHeader, knot, stitch]
      rw [away_congr alike.scenes alike.opened, turned]
      simp [header]

/-! ## What has no count -/

/-- In the open block the members of the open group have no count, and they alone. -/
theorem holdsMember_iff (sound : d.ledger.Sound) :
    d.holdsMember = true ↔ ∃ s ∈ d.here, s.mark.Open := by
  simp only [holdsMember, Bool.and_eq_true, List.any_eq_true, beq_iff_eq]
  constructor
  · rintro ⟨goesOn, s, member, belongs⟩
    have inLedger : s.mark ∈ d.ledger.marks :=
      List.mem_append_right _ (List.mem_map_of_mem member)
    refine ⟨s, member, ?_, sound.counted.waits goesOn s.mark inLedger belongs⟩
    exact Option.isSome_iff_exists.mpr ⟨d.groups, belongs⟩
  · rintro ⟨s, member, isOpen⟩
    obtain ⟨goesOn, belongs⟩ := sound.settled s.mark (List.mem_map_of_mem member) isOpen
    exact ⟨goesOn, s, member, belongs⟩

theorem sound_turned (lines : List SourceLine) (line : SourceLine) :
    ((upTo lines).turned line).ledger.Sound :=
  sound_moves (moves_turned _ line) (grouped_upTo lines) (sound_upTo lines)

/-- **Members are left behind without a count just if a header has cut their group.** -/
theorem exists_open_away_iff (lines : List SourceLine) :
    (∃ s ∈ (upTo lines).away, s.mark.Open) ↔ ∃ s ∈ sites lines, s.cutsGroup = true := by
  induction lines using List.reverseRecOn with
  | nil =>
      have nothing : (upTo []).away = [] := rfl
      simp [nothing, sites, sitesAfter]
  | append_singleton rest line ih =>
      have cut : Site.cutsGroup ⟨rest, line⟩ = true ↔
          ∃ s ∈ (if line.isHeader then ((upTo rest).turned line).here else []), s.mark.Open := by
        have holds := holdsMember_iff (sound_turned rest line)
        simp only [Site.cutsGroup, Site.draft, Bool.and_eq_true, holds]
        cases line.isHeader with
        | true => simp
        | false => simp
      rw [upTo_concat, away_step, sites_concat]
      simp only [List.mem_append, or_and_right, exists_or, ih, ← cut, List.mem_singleton,
        exists_eq_left]

end Draft

end Beatsheet

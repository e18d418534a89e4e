/-
# Beatsheet.Proofs.Extract.Placement — every beat is kept, once and in its place

The lines that are read as beats, and what headers stand before them, can be told without looking at
a forest (`Site.isBeat`, `Site.placement?`). The theorem of this module, `extractLines_placements`,
says that an extraction holds exactly these beats, in the order of their lines and each in the scene
and block of the last headers before it. Tagged lines are kept in the same way, no line is both, and
nothing in the forest is empty.

The invariant is the outline of the draft: after any lines its headings are those of the last
headers (`headings_outline_upTo`), and its placements and tagged lines are those of the sites so
far.
-/
import Beatsheet.Proofs.Draft.Filled
import Beatsheet.Proofs.Draft.Outline
import Beatsheet.Proofs.Extract.Names
import Mathlib.Data.List.DropRight

set_option autoImplicit false

namespace Beatsheet

/-! ## The last headers -/

/-- The last knot header of some lines. -/
def lastKnot? (lines : List SourceLine) : Option Heading :=
  (lines.filterMap SourceLine.knot?).getLast?

/-- The last stitch header behind the last knot header or, if there is none, a block without a name
at the origin of the scene. -/
def lastBlock (lines : List SourceLine) (scene : Heading) : Heading :=
  (((lines.rtakeWhile (·.knot?.isNone)).filterMap SourceLine.stitch?).getLast?).getD
    ⟨[], scene.origin⟩

def lastHeadings (lines : List SourceLine) : Option (Heading × Heading) :=
  (lastKnot? lines).map fun scene => (scene, lastBlock lines scene)

theorem lastHeadings_concat (lines : List SourceLine) (line : SourceLine) :
    lastHeadings (lines ++ [line]) = Outline.headingsAfter (lastHeadings lines) line := by
  cases knot : line.knot? with
  | some scene =>
      have cut : (lines ++ [line]).rtakeWhile (·.knot?.isNone) = [] :=
        List.rtakeWhile_concat_neg _ _ _ (by simp [knot])
      simp [lastHeadings, lastKnot?, lastBlock, Outline.headingsAfter, knot, cut]
  | none =>
      have cut : (lines ++ [line]).rtakeWhile (·.knot?.isNone) =
          lines.rtakeWhile (·.knot?.isNone) ++ [line] :=
        List.rtakeWhile_concat_pos _ _ _ (by simp [knot])
      cases stitch : line.stitch? with
      | none =>
          simp [lastHeadings, lastKnot?, lastBlock, Outline.headingsAfter, knot, stitch, cut]
      | some block =>
          simp [lastHeadings, lastKnot?, lastBlock, Outline.headingsAfter, knot, stitch, cut,
            Function.comp_def]

theorem Draft.headings_outline_upTo (lines : List SourceLine) :
    (Draft.upTo lines).outline.headings = lastHeadings lines := by
  induction lines using List.reverseRecOn with
  | nil => rfl
  | append_singleton rest line ih =>
      rw [upTo_concat, outline_step, lastHeadings_concat, ← ih]
      rfl

/-! ## Sites that count -/

namespace Site

/-- Whether the line is read as a beat. -/
def isBeat (s : Site) : Bool :=
  s.draft.readsBeat s.line

/-- Whether the line is recorded for the identifier it declares. -/
def isTagged (s : Site) : Bool :=
  s.draft.recordsTagged s.line

/-- Where a beat on this line is, if there is a knot header before it. -/
def placement? (s : Site) : Option Placement :=
  (lastKnot? s.before).map fun scene => ⟨scene, lastBlock s.before scene, s.line.origin⟩

theorem placement?_eq (s : Site) :
    s.placement? = s.draft.outline.headings.map fun h => ⟨h.1, h.2, s.line.origin⟩ := by
  rw [draft, Draft.headings_outline_upTo, lastHeadings, Option.map_map]
  rfl

/-- A beat has a knot header before it. -/
theorem isSome_placement? {s : Site} (beat : s.isBeat = true) : s.placement?.isSome = true := by
  rw [placement?_eq, Option.isSome_map, Draft.isSome_headings_outline]
  rw [isBeat, Draft.readsBeat, Option.any_eq_true] at beat
  obtain ⟨ways, -, reads⟩ := beat
  simp only [Draft.readsProse, Bool.and_eq_true] at reads
  exact reads.1.1.2

theorem map_origin_placement? {s : Site} (beat : s.isBeat = true) :
    s.placement?.map (·.origin) = some s.line.origin := by
  obtain ⟨place, placed⟩ := Option.isSome_iff_exists.mp (isSome_placement? beat)
  rw [placement?] at placed ⊢
  rw [Option.map_eq_some_iff] at placed
  obtain ⟨scene, found, -⟩ := placed
  simp [found]

end Site

/-! ## What the outline collects -/

namespace Draft

theorem placements_outline_upTo (lines : List SourceLine) :
    (upTo lines).outline.placements.map some =
      ((sites lines).filter Site.isBeat).map Site.placement? := by
  induction lines using List.reverseRecOn with
  | nil => rfl
  | append_singleton rest line ih =>
      rw [upTo_concat, outline_step, sites_concat, List.filter_append, List.map_append, ← ih]
      cases beat : (upTo rest).readsBeat line with
      | false =>
          have notBeat : Site.isBeat ⟨rest, line⟩ = false := beat
          cases (upTo rest).recordsTagged line <;>
            simp [Outline.step, Outline.add, Outline.addTagged, notBeat]
      | true =>
          have isBeat : Site.isBeat ⟨rest, line⟩ = true := beat
          obtain ⟨place, placed⟩ := Option.isSome_iff_exists.mp (Site.isSome_placement? isBeat)
          have added : (upTo rest).outline.headings.map (fun h => ⟨h.1, h.2, line.origin⟩) =
              some place := (Site.placement?_eq ⟨rest, line⟩).symm.trans placed
          simp [Outline.step, Outline.add, Outline.addBeat, isBeat, placed, added]

theorem tagged_outline_upTo (lines : List SourceLine) :
    (upTo lines).outline.tagged = ((sites lines).filter Site.isTagged).map (·.line.origin) := by
  induction lines using List.reverseRecOn with
  | nil => rfl
  | append_singleton rest line ih =>
      rw [upTo_concat, outline_step, sites_concat, List.filter_append, List.map_append, ← ih]
      cases beat : (upTo rest).readsBeat line with
      | true =>
          have notTagged : Site.isTagged ⟨rest, line⟩ = false := recordsTagged_of_readsBeat beat
          simp [Outline.step, Outline.add, Outline.addBeat, notTagged]
      | false =>
          cases tagged : (upTo rest).recordsTagged line with
          | false =>
              have notTagged : Site.isTagged ⟨rest, line⟩ = false := tagged
              simp [Outline.step, Outline.add, notTagged]
          | true =>
              have isTagged : Site.isTagged ⟨rest, line⟩ = true := tagged
              simp [Outline.step, Outline.add, Outline.addTagged, isTagged]

/-- Once all is put away, the placements of the scenes are those of the outline. -/
theorem placements_ofLines (lines : List SourceLine) :
    (ofLines lines).scenes.flatMap Scene.placements = (upTo lines).outline.placements := by
  have closed := congrArg Outline.placements (outline_close (upTo lines))
  simpa [outline, ofLines_eq] using closed

theorem origins_taggedLines_ofLines (lines : List SourceLine) :
    (ofLines lines).taggedLines.map (·.origin) = (upTo lines).outline.tagged :=
  congrArg Outline.tagged (outline_close (upTo lines))

end Draft

/-! ## Extractions -/

/-- **Every beat is kept, once and in its place.** The beats of an extraction are the lines read as
beats, in their order, each in the scene of the last knot header before it and there in the block of
the last stitch header; tagged lines are the lines recorded as such, in their order; no line is
both; and no scene, block or snippet is empty. -/
theorem extractLines_placements {σ : Type} (source : IdSource σ) (state : σ) (options : Options)
    (previous : Option (List (Scene Text))) (lines : List SourceLine) :
    let e := (extractLines source state options previous lines).extraction
    let beats := (sites lines).filter Site.isBeat
    let tagged := (sites lines).filter Site.isTagged
    e.beats.map (·.origin) = beats.map (·.line.origin) ∧
      (e.scenes.flatMap Scene.placements).map some = beats.map Site.placement? ∧
      e.taggedLines.map (·.origin) = tagged.map (·.line.origin) ∧
      (∀ site : Site, ¬(site.isBeat = true ∧ site.isTagged = true)) ∧
      ∀ scene ∈ e.scenes, scene.Filled := by
  intro e beats tagged
  obtain ⟨name, named⟩ := extractLines_scenes source state options previous lines
  have placements : (e.scenes.flatMap Scene.placements).map some = beats.map Site.placement? := by
    rw [named, List.flatMap_map]
    simp only [Scene.placements_map]
    rw [← Draft.placements_outline_upTo, ← Draft.placements_ofLines]
  refine ⟨?_, placements, ?_, ?_, ?_⟩
  · have origins := congrArg (List.map (Option.map Placement.origin)) placements
    have ofBeats : beats.map (fun s => s.placement?.map (·.origin)) =
        (beats.map (·.line.origin)).map some := by
      rw [List.map_map]
      refine List.map_congr_left fun s member => ?_
      exact Site.map_origin_placement? (List.mem_filter.mp member).2
    have ofForest : e.beats.map (·.origin) =
        (e.scenes.flatMap Scene.placements).map (·.origin) := by
      simp only [Extraction.beats, List.map_flatMap, Scene.map_origin_placements]
    rw [List.map_map, List.map_map] at origins
    refine List.map_injective_iff.mpr (fun _ _ same => Option.some.inj same) ?_
    rw [← ofBeats, ofForest, List.map_map]
    exact origins
  · rw [extractLines_taggedLines, Draft.origins_taggedLines_ofLines, Draft.tagged_outline_upTo]
  · rintro site ⟨beat, recorded⟩
    have := Draft.recordsTagged_of_readsBeat beat
    rw [Site.isTagged, this] at recorded
    exact Bool.false_ne_true recorded
  · rw [named, List.forall_mem_map]
    intro scene member
    rw [Scene.filled_map]
    exact Draft.filled_ofLines lines scene member

end Beatsheet

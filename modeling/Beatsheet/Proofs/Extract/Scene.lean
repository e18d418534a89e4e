/-
# Beatsheet.Proofs.Extract.Scene — scenes by themselves

What a script adds from a knot header on is what it would be by itself (`extractLines_behind`), but
for the names of its snippets and the numbers of its groups, which go on from those before. For
this nothing may be left over before the header (`Draft.Quiet`). One thing is left as it is by a
header, namely whether a gather would merge alternatives. Where it would, no gather may come before
all other lines that settle this (`Draft.asksBack`); otherwise a choice in the scene before shows in
the comments of the next one (`not_always_behind`).

The run over both parts is followed step by step by the run over the second one: from the header on
the two agree, once the second one is put behind the past that the first part has become.
-/
import Beatsheet.Proofs.Draft.Header
import Beatsheet.Proofs.Extract.Names

set_option autoImplicit false

namespace Beatsheet

/-! ## Without names -/

section Unnamed

variable {ι : Type}

/-- A scene without the names of its snippets. -/
def Scene.unnamed (s : Scene ι) : Scene Unit :=
  s.map fun _ => ()

theorem Scene.unnamed_behind (p : Past) (s : Scene Nat) :
    (s.behind p).unnamed = (s.shift p.groups).unnamed := by
  simp only [unnamed, Scene.map, behind, shift, Block.map, Block.behind, Block.shift, List.map_map,
    Function.comp_def]
  rfl

theorem Scene.unnamed_shift_map (n : Nat) (name : Snippet Nat → Text) (s : Scene Nat) :
    ((s.map name).shift n).unnamed = (s.shift n).unnamed := by
  simp only [unnamed, Scene.map, shift, Block.map, Block.shift, List.map_map, Function.comp_def]
  rfl

end Unnamed

theorem extractLines_unnamed {σ : Type} (source : IdSource σ) (state : σ) (options : Options)
    (previous : Option (List (Scene Text))) (lines : List SourceLine) :
    (extractLines source state options previous lines).extraction.scenes.map Scene.unnamed =
      (Draft.ofLines lines).scenes.map Scene.unnamed := by
  obtain ⟨name, named⟩ := extractLines_scenes source state options previous lines
  rw [named, List.map_map]
  exact List.map_congr_left fun s _ => Scene.map_map name _ s

/-! ## Runs -/

namespace Draft

variable {lines rest : List SourceLine} {header : SourceLine}

/-- **From a knot header on the run over a script follows the run over what is left of it.** -/
theorem upTo_append (quiet : (upTo lines).Quiet) (knot : header.knot?.isSome = true)
    (merging : (upTo lines).merging = false ∨ asksBack {} (header :: rest) = false) :
    ∃ e started, (upTo (header :: rest)).Agrees e ∧
      upTo (lines ++ header :: rest) = e.behind ((upTo lines).past started) := by
  obtain ⟨heading, knot⟩ := Option.isSome_iff_exists.mp knot
  let new : Draft := ({} : Draft).set (upTo lines).close.members (upTo lines).merging
  have agrees : Agrees {} new := .set _ _ fun known => by cases known
  refine ⟨(header :: rest).foldl step new, ((upTo lines).turned header).started,
    agrees.foldl_step grouped_empty merging, ?_⟩
  have parts : upTo (lines ++ header :: rest) = rest.foldl step ((upTo lines).step header) := by
    simp [upTo]
  rw [parts, step_knot quiet (stacked_upTo lines) (grouped_upTo lines) knot, foldl_step_behind]
  rfl

theorem ofLines_append (quiet : (upTo lines).Quiet) (knot : header.knot?.isSome = true)
    (merging : (upTo lines).merging = false ∨ asksBack {} (header :: rest) = false) :
    ∃ e started, (ofLines (header :: rest)).Agrees e ∧
      ofLines (lines ++ header :: rest) = e.behind ((upTo lines).past started) := by
  obtain ⟨e, started, agrees, same⟩ := upTo_append quiet knot merging
  refine ⟨e.close, started, agrees.close (grouped_upTo _), ?_⟩
  rw [ofLines_eq, same, close_behind]

end Draft

/-! ## Extractions -/

/-- What is reported does not depend on the numbers of groups. -/
theorem Draft.diagnostics_behind (p : Past) (d : Draft) :
    (d.behind p).diagnostics = p.events.filterMap Event.diagnostic? ++ d.diagnostics := by
  simp only [diagnostics, behind, List.filterMap_append, List.filterMap_map, Function.comp_def,
    Event.diagnostic?_shift]

section

variable {σ τ : Type} (source : IdSource σ) (state : σ) (options : Options)
  (previous : Option (List (Scene Text))) (source' : IdSource τ) (state' : τ) (options' : Options)
  (previous' : Option (List (Scene Text))) {lines rest : List SourceLine} {header : SourceLine}

/-- **What a script adds from a knot header on is what it would be by itself**, if nothing is left
over before the header and no gather asks what was not settled behind it. Names of snippets do not
count, and the groups are numbered on. -/
theorem extractLines_behind (quiet : (Draft.upTo lines).Quiet)
    (knot : header.knot?.isSome = true)
    (merging : (Draft.upTo lines).merging = false ∨
      Draft.asksBack {} (header :: rest) = false) :
    let before := (extractLines source state options previous lines).extraction
    let alone := (extractLines source' state' options' previous' (header :: rest)).extraction
    let whole := (extractLines source state options previous (lines ++ header :: rest)).extraction
    whole.scenes.map Scene.unnamed =
        before.scenes.map Scene.unnamed ++
          alone.scenes.map (fun s => (s.shift (Draft.upTo lines).groups).unnamed) ∧
      whole.taggedLines = before.taggedLines ++ alone.taggedLines ∧
      whole.diagnostics = before.diagnostics ++ alone.diagnostics := by
  intro before alone whole
  obtain ⟨e, started, agrees, same⟩ := Draft.ofLines_append quiet knot merging
  obtain ⟨members, merging, -⟩ := agrees
  refine ⟨?scenes, ?taggedLines, ?diagnostics⟩
  case scenes =>
      let p : Past := (Draft.upTo lines).past started
      obtain ⟨name, named⟩ := extractLines_scenes source' state' options' previous' (header :: rest)
      have behind : ∀ s : Scene Nat,
          (s.behind p).unnamed = ((s.map name).shift (Draft.upTo lines).groups).unnamed := by
        intro s
        rw [Scene.unnamed_shift_map, Scene.unnamed_behind]
        rfl
      calc whole.scenes.map Scene.unnamed
        _ = (Draft.ofLines lines).scenes.map Scene.unnamed ++
              ((Draft.ofLines (header :: rest)).scenes.map (Scene.behind p)).map
                Scene.unnamed := by
            rw [extractLines_unnamed, same]
            exact List.map_append
        _ = _ := by
            rw [extractLines_unnamed, named, List.map_map, List.map_map]
            exact congrArg _ (List.map_congr_left fun s _ => behind s)
  case taggedLines =>
      rw [extractLines_taggedLines, extractLines_taggedLines, extractLines_taggedLines, same,
        Draft.ofLines_eq lines, Draft.taggedLines_close]
      rfl
  case diagnostics =>
      have ended : (Draft.ofLines lines).diagnostics = (Draft.upTo lines).diagnostics := by
        rw [Draft.ofLines_eq, Draft.diagnostics, Draft.events_close, Draft.diagnostics]
      rw [extractLines_diagnostics, extractLines_diagnostics, extractLines_diagnostics, same,
        Draft.diagnostics_behind, ended]
      rfl

end

/-! ## Poles -/

/-- The header of a scene. -/
def secondHeader : SourceLine :=
  ⟨"=== K".toList, ⟨"t.ink".toList, 6⟩⟩

/-- A scene whose group leaves alternatives to be merged. -/
def sceneWithGroup : List SourceLine :=
  SourceLine.number "t.ink".toList 1 <|
    ["=== J", "#dink", "\x7b shuffle:", "- ANN: One. #id:a", "\x7d"].map String.toList

/-- A scene where the end of a group goes before the gather. -/
def sceneWithOwnGroup : List SourceLine :=
  SourceLine.number "t.ink".toList 7 <|
    ["#dink", "\x7b once:", "- FRED: Hi. #id:b", "\x7d", "-", "FRED: So. #id:c",
      "FRED: And so. #id:d"].map String.toList

theorem extractLines_behind_of_group :
    let before := (extractLines IdSource.numbered 0 {} none sceneWithGroup).extraction
    let alone :=
      (extractLines IdSource.numbered 0 {} none (secondHeader :: sceneWithOwnGroup)).extraction
    let whole := (extractLines IdSource.numbered 0 {} none
      (sceneWithGroup ++ secondHeader :: sceneWithOwnGroup)).extraction
    (Draft.upTo sceneWithGroup).Quiet ∧ (Draft.upTo sceneWithGroup).merging = true ∧
      secondHeader.knot?.isSome = true ∧
      Draft.asksBack {} (secondHeader :: sceneWithOwnGroup) = false ∧
      alone.snippets.map (·.group) = [some 1, none] ∧
      whole.snippets.map (·.group) = [some 1, some 2, none] ∧
      whole.scenes.map Scene.unnamed =
        before.scenes.map Scene.unnamed ++ alone.scenes.map fun s => (s.shift 1).unnamed := by
  intro before alone whole
  have flat : (Draft.upTo sceneWithGroup).levels.depth = 0 := by decide +kernel
  have quiet : (Draft.upTo sceneWithGroup).Quiet :=
    ⟨(Draft.clear_upTo_iff_depth _).mpr flat, by decide +kernel, by decide +kernel,
      by decide +kernel⟩
  have knot : secondHeader.knot?.isSome = true := by decide +kernel
  have silent : Draft.asksBack {} (secondHeader :: sceneWithOwnGroup) = false := by
    decide +kernel
  have numbered : (Draft.upTo sceneWithGroup).groups = 1 := by decide +kernel
  have parts := extractLines_behind IdSource.numbered 0 {} none IdSource.numbered 0 {} none quiet
    knot (.inr silent)
  refine ⟨quiet, by decide +kernel, knot, silent, by decide +kernel, by decide +kernel, ?_⟩
  rw [← numbered]
  exact parts.1

/-- A scene that ends behind a choice. -/
def sceneWithChoice : List SourceLine :=
  SourceLine.number "t.ink".toList 1 <| ["=== J", "* [x]"].map String.toList

/-- A scene that begins with a gather. -/
def sceneWithGather : List SourceLine :=
  SourceLine.number "t.ink".toList 7 <| ["#dink", "-", "FRED: Hi. #id:a"].map String.toList

/-- A choice before the header gives the gather behind it alternatives to merge. -/
theorem not_always_behind :
    ¬∀ (lines rest : List SourceLine) (header : SourceLine), (Draft.upTo lines).Quiet →
      header.knot?.isSome = true →
      let before := (extractLines IdSource.numbered 0 {} none lines).extraction
      let alone := (extractLines IdSource.numbered 0 {} none (header :: rest)).extraction
      let whole := (extractLines IdSource.numbered 0 {} none (lines ++ header :: rest)).extraction
      whole.scenes.map Scene.unnamed =
          before.scenes.map Scene.unnamed ++
            alone.scenes.map (fun s => (s.shift (Draft.upTo lines).groups).unnamed) ∧
        whole.taggedLines = before.taggedLines ++ alone.taggedLines ∧
        whole.diagnostics = before.diagnostics ++ alone.diagnostics := by
  intro always
  have flat : (Draft.upTo sceneWithChoice).levels.depth = 0 := by decide +kernel
  have quiet : (Draft.upTo sceneWithChoice).Quiet :=
    ⟨(Draft.clear_upTo_iff_depth _).mpr flat, by decide +kernel, by decide +kernel,
      by decide +kernel⟩
  have same := (always sceneWithChoice sceneWithGather secondHeader quiet (by decide +kernel)).1
  have marked := congrArg
    (List.flatMap fun s : Scene Unit => s.snippets.map (·.comments)) same
  revert marked
  decide +kernel

end Beatsheet

/-
# Beatsheet.Proofs.Extract.Opaque — names are opaque

A name is drawn whenever a snippet is started, in the middle of a script. A run that draws its names
then (`Drawing`) reads the same draft as one that draws none, and has the names that are issued all
at once in the end (`Drawing.ofLines_eq`). So two runs over a text whose names come from different
sources differ in the names of their snippets alone (`extract_opaque`). With the same earlier forest
and threshold the same snippets take over the same names, for this depends on beats only; every
other snippet has the name that its own run drew when it was started.
-/
import Beatsheet.Proofs.Continuity.Distinct
import Beatsheet.Proofs.Extract.Growth
import Beatsheet.Proofs.Extract.Scene

set_option autoImplicit false

namespace Beatsheet

/-! ## Names drawn on the way -/

/-- What has been read of a script, the names drawn so far, one for each snippet started, and what
is left of the source of identifiers. -/
structure Drawing (σ : Type) where
  draft : Draft := {}
  names : List Text := []
  state : σ

namespace Drawing

variable {σ : Type} (source : IdSource σ) (unique : Bool) (state : σ)

/-- Takes in a line and draws a name for each snippet that it starts. -/
def step (r : Drawing σ) (line : SourceLine) : Drawing σ :=
  let draft := r.draft.step line
  let fresh := source.issue unique (draft.started - r.draft.started) r.names.reverse r.state
  { draft, names := r.names ++ fresh.1, state := fresh.2 }

def ofLines (lines : List SourceLine) : Drawing σ :=
  lines.foldl (step source unique) { state }

theorem started_le_step (lines : List SourceLine) (line : SourceLine) :
    (Draft.upTo lines).started ≤ ((Draft.upTo lines).step line).started := by
  rw [← Draft.upTo_concat]
  exact (Draft.growsTo_upTo_append lines [line]).records.started

/-- **Names drawn on the way are those issued in the end**, and the draft does not depend on them.
-/
theorem ofLines_eq (lines : List SourceLine) :
    ofLines source unique state lines =
      let issued := source.issue unique (Draft.upTo lines).started [] state
      { draft := Draft.upTo lines, names := issued.1, state := issued.2 } := by
  induction lines using List.reverseRecOn with
  | nil => rfl
  | append_singleton rest line ih =>
      have total := Nat.add_sub_cancel' (started_le_step rest line)
      rw [ofLines, List.foldl_concat, ← ofLines, ih, Draft.upTo_concat, ← total,
        IdSource.issue_add]
      simp only [step, List.append_nil]

theorem names_ofLines (lines : List SourceLine) :
    (ofLines source unique state lines).names =
      (source.issue unique (Draft.ofLines lines).started [] state).1 := by
  rw [ofLines_eq, Draft.ofLines_eq, Draft.started_close]

end Drawing

/-! ## Two runs -/

/-- Extractions that are the same but for the names of their snippets. -/
structure Extraction.SameButNames (e f : Extraction) : Prop where
  scenes : e.scenes.map Scene.unnamed = f.scenes.map Scene.unnamed
  taggedLines : e.taggedLines = f.taggedLines
  diagnostics : e.diagnostics = f.diagnostics

section Extraction

variable {σ : Type} (source : IdSource σ) (state : σ) (options : Options)
  (previous : Option (List (Scene Text))) (lines : List SourceLine)

/-- What a snippet takes over, if there is an earlier forest. -/
def Snippet.taken? {ι : Type} (threshold : Float) (previous : Option (List (Scene Text)))
    (s : Snippet ι) : Option Text :=
  previous.bind fun earlier => s.reused? threshold (candidates earlier)

/-- A snippet has the name that it takes over or else the one that was drawn for it. -/
theorem snippetIds_extractLines :
    snippetIds (extractLines source state options previous lines).extraction.scenes =
      ((Draft.ofLines lines).scenes.flatMap (·.snippets)).map fun s =>
        (s.taken? options.minOverlap previous).getD
          ((Drawing.ofLines source options.uniqueIds state lines).names.getD s.id []) := by
  rw [Drawing.names_ofLines]
  cases previous with
  | none =>
      simp only [extractLines, Draft.named, snippetIds, List.flatMap_map, Scene.snippets_map,
        List.map_flatMap, List.map_map]
      rfl
  | some earlier =>
      simp only [extractLines, snippetIds_reconcile, Draft.named, List.flatMap_map,
        Scene.snippets_map, List.map_flatMap, List.map_map]
      rfl

/-- A name was drawn for every snippet. -/
theorem id_lt_length_names {s : Snippet Nat}
    (member : s ∈ (Draft.ofLines lines).scenes.flatMap (·.snippets)) :
    s.id < (Drawing.ofLines source options.uniqueIds state lines).names.length := by
  rw [Drawing.names_ofLines, IdSource.length_issue, Draft.ofLines_eq, Draft.started_close]
  exact (Draft.numbered_upTo lines).ids s.id (List.mem_map_of_mem member)

end Extraction

/-- **Names are opaque.** Two runs over the same text are the same but for the names of snippets,
whatever their sources of identifiers, their options and their earlier forests. If these forests and
the thresholds are the same, the same snippets take over the same names in both, and every other
snippet has the name that its own run drew for it. -/
theorem extract_opaque {σ σ' : Type} (source : IdSource σ) (state : σ) (source' : IdSource σ')
    (state' : σ') (options options' : Options) (path text : Text) :
    let lines := SourceLine.ofSource path text
    let snippets := (Draft.ofLines lines).scenes.flatMap (·.snippets)
    let drawn := (Drawing.ofLines source options.uniqueIds state lines).names
    let drawn' := (Drawing.ofLines source' options'.uniqueIds state' lines).names
    (∀ previous previous',
      (extract source state options previous path text).extraction.SameButNames
        (extract source' state' options' previous' path text).extraction) ∧
    (∀ s ∈ snippets, s.id < drawn.length ∧ s.id < drawn'.length) ∧
    (options'.minOverlap = options.minOverlap → ∀ previous,
      snippetIds (extract source state options previous path text).extraction.scenes =
        snippets.map (fun s =>
          (s.taken? options.minOverlap previous).getD (drawn.getD s.id [])) ∧
      snippetIds (extract source' state' options' previous path text).extraction.scenes =
        snippets.map fun s =>
          (s.taken? options.minOverlap previous).getD (drawn'.getD s.id [])) := by
  intro lines snippets drawn drawn'
  refine ⟨fun previous previous' => ⟨?_, ?_, ?_⟩, fun s member => ⟨?_, ?_⟩, ?_⟩
  · exact (extractLines_unnamed source state options previous lines).trans
      (extractLines_unnamed source' state' options' previous' lines).symm
  · exact (extractLines_taggedLines source state options previous lines).trans
      (extractLines_taggedLines source' state' options' previous' lines).symm
  · exact (extractLines_diagnostics source state options previous lines).trans
      (extractLines_diagnostics source' state' options' previous' lines).symm
  · exact id_lt_length_names source state options lines member
  · exact id_lt_length_names source' state' options' lines member
  · intro same previous
    refine ⟨snippetIds_extractLines source state options previous lines, ?_⟩
    rw [← same]
    exact snippetIds_extractLines source' state' options' previous lines

/-- One snippet takes over an earlier name, the other one has the name that its own run drew for it.
In the second run the name drawn for it was issued before, so another one is drawn. -/
theorem extract_opaque_of_listed :
    let text := "=== K\n#dink\nFRED: Hi. #id:a\n\x7b x:\nSUE: Ho. #id:b\n\x7d".toList
    let previous := some (forestOf [("P", ["a"])])
    let drawn := ["X".toList, "X".toList, "Y".toList, "Z".toList]
    snippetIds (extract .numbered 0 {} previous [] text).extraction.scenes =
        ["P".toList, "S2".toList] ∧
      snippetIds (extract .listed drawn { uniqueIds := true } previous [] text).extraction.scenes =
        ["P".toList, "Y".toList] := by
  intro text previous drawn
  obtain ⟨-, -, named⟩ :=
    extract_opaque .numbered 0 .listed drawn {} { uniqueIds := true } [] text
  obtain ⟨first, second⟩ := named rfl previous
  rw [first, second]
  decide +kernel

end Beatsheet

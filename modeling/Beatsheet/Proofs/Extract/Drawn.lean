/-
# Beatsheet.Proofs.Extract.Drawn — the draw that names a snippet

The snippets of a script stand in the order in which they were started, and each has the name that
was issued when it was (`extractLines_drawn`). Snippets that come to nothing are named too, so their
names are missing in the extraction. Without the option for unique names, the name is the draw with
the number of the snippet. With it, the name is what the snippet's call took; so the names that were
issued are distinct just if no call gave up, and then those in the extraction are.
-/
import Beatsheet.Proofs.Extract.Opaque
import Beatsheet.Proofs.Identity.Fresh

set_option autoImplicit false

namespace Beatsheet

/-- Of distinct names, other numbers give other names. -/
theorem nodup_map_getD {names : List Text} (distinct : names.Nodup) {numbers : List Nat}
    (ascending : numbers.Pairwise (· < ·)) (within : ∀ k ∈ numbers, k < names.length) :
    (numbers.map (names.getD · [])).Nodup := by
  rw [List.Nodup, List.pairwise_map]
  refine ascending.imp_of_mem fun {j k} inJ inK earlier same => ?_
  rw [names.getD_eq_getElem [] (within j inJ), names.getD_eq_getElem [] (within k inK),
    List.getElem_inj distinct] at same
  exact Nat.ne_of_lt earlier same

section

variable {σ : Type} (source : IdSource σ) (state : σ) (options : Options)
  (lines : List SourceLine)

theorem state_ofLines (unique : Bool) :
    (Drawing.ofLines source unique state lines).state =
      (source.issue unique (Draft.ofLines lines).started [] state).2 := by
  rw [Drawing.ofLines_eq, Draft.ofLines_eq, Draft.started_close]

/-- Without an earlier forest each snippet has the name that was issued for it. -/
theorem snippetIds_of_none :
    snippetIds (extractLines source state options none lines).extraction.scenes =
      (((Draft.ofLines lines).scenes.flatMap (·.snippets)).map (·.id)).map
        ((Drawing.ofLines source options.uniqueIds state lines).names.getD · []) := by
  rw [snippetIds_extractLines, List.map_map]
  rfl

end

/-- **The names of snippets are drawn in the order in which the snippets are started.** Unique names
are taken by calls, and distinct just if no call gave up. -/
theorem extractLines_drawn {σ : Type} (source : IdSource σ) (state : σ) (options : Options)
    (lines : List SourceLine) :
    let run := Drawing.ofLines source options.uniqueIds state lines
    let numbers := ((Draft.ofLines lines).scenes.flatMap (·.snippets)).map (·.id)
    let ids := snippetIds (extractLines source state options none lines).extraction.scenes
    (run.names.length = (Draft.ofLines lines).started ∧
      numbers.Pairwise (· < ·) ∧ (∀ k ∈ numbers, k < run.names.length) ∧
      ids = numbers.map (run.names.getD · [])) ∧
    (options.uniqueIds = true →
      ∃ calls, source.Calls state run.names run.state calls ∧
        (run.names.Nodup ↔
          ∀ k < run.names.length, ¬ IdSource.GaveUp (run.names.take k) (calls.getD k [])) ∧
        ((∀ k < run.names.length, ¬ IdSource.GaveUp (run.names.take k) (calls.getD k [])) →
          ids.Nodup)) ∧
    (options.uniqueIds = false →
      (run.names, run.state) = source.draws (Draft.ofLines lines).started state) := by
  intro run numbers ids
  have names : run.names =
      (source.issue options.uniqueIds (Draft.ofLines lines).started [] state).1 :=
    Drawing.names_ofLines source options.uniqueIds state lines
  have rest : run.state =
      (source.issue options.uniqueIds (Draft.ofLines lines).started [] state).2 :=
    state_ofLines source state lines options.uniqueIds
  have ascending : numbers.Pairwise (· < ·) := (Draft.ascending_upTo lines).ids
  have within : ∀ k ∈ numbers, k < run.names.length := by
    intro k member
    obtain ⟨s, inForest, rfl⟩ := List.mem_map.mp member
    exact id_lt_length_names source state options lines inForest
  have named : ids = numbers.map (run.names.getD · []) :=
    snippetIds_of_none source state options lines
  refine ⟨⟨?_, ascending, within, named⟩, ?_, ?_⟩
  · rw [names, IdSource.length_issue]
  · intro unique
    rw [unique] at names rest
    obtain ⟨calls, good⟩ := source.exists_calls (Draft.ofLines lines).started state
    rw [← names, ← rest] at good
    refine ⟨calls, good, good.nodup_iff, fun goesOn => ?_⟩
    rw [named]
    exact nodup_map_getD (good.nodup_iff.mpr goesOn) ascending within
  · intro repeated
    rw [repeated] at names rest
    rw [names, rest]
    exact source.issue_eq_draws (Draft.ofLines lines).started [] state

/-- The second of three snippets comes to nothing, and the first name is drawn twice more. Unique
names pass over both draws; names that may repeat do not, and the last snippet has the third
draw. -/
theorem extractLines_drawn_of_repeats :
    let lines := SourceLine.ofSource [] "=== K\n#dink\nFRED: Hi. #id:a\n-\n- SUE: Ho. #id:b".toList
    let draws := ["X".toList, "X".toList, "Y".toList, "X".toList, "Z".toList]
    let extracted (unique : Bool) :=
      (extractLines .listed draws { uniqueIds := unique } none lines).extraction
    (snippetIds (extracted true).scenes).Nodup ∧
      snippetIds (extracted true).scenes = ["X".toList, "Z".toList] ∧
      snippetIds (extracted false).scenes = ["X".toList, "Y".toList] := by
  intro lines draws extracted
  obtain ⟨⟨-, -, -, named⟩, unique, -⟩ :=
    extractLines_drawn .listed draws { uniqueIds := true } lines
  obtain ⟨⟨-, -, -, named'⟩, -, repeated⟩ := extractLines_drawn .listed draws {} lines
  obtain ⟨calls, -, distinct, ids⟩ := unique rfl
  refine ⟨ids (distinct.mp (by decide +kernel)), named.trans (by decide +kernel), ?_⟩
  have drawn := congrArg Prod.fst (repeated rfl)
  dsimp only at drawn
  rw [drawn] at named'
  exact named'.trans (by decide +kernel)

end Beatsheet

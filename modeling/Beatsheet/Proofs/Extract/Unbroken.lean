/-
# Beatsheet.Proofs.Extract.Unbroken — no line break gets into an extraction

A source is cut at its line breaks, so no text of its extraction holds one, as long as the source of
identifiers draws none; only paths are taken as they are (`extract_unbroken`). Therefore a dump has
one line for each part of the forest, and a diagnostic is shown in one line.
-/
import Beatsheet.Proofs.Draft.Whole
import Beatsheet.Proofs.Extract.Drawn
import Beatsheet.Proofs.Extract.Report

set_option autoImplicit false

namespace Beatsheet

open Text

/-- All texts of an extraction but the paths of origins. -/
def Extraction.texts (e : Extraction) : List Text :=
  snippetIds e.scenes ++ e.scenes.flatMap Scene.texts ++ e.taggedLines.flatMap TaggedLine.texts ++
    e.diagnostics.map (·.message)

namespace SourceLine

theorem of_mem_number {path : Text} {first : Nat} {ts : List Text} {line : SourceLine}
    (member : line ∈ number path first ts) : line.text ∈ ts ∧ line.origin.path = path := by
  induction ts generalizing first with
  | nil => cases member
  | cons t ts ih =>
      rcases List.mem_cons.mp member with rfl | behind
      · exact ⟨List.mem_cons_self, rfl⟩
      · exact (ih behind).imp_left (List.mem_cons_of_mem t)

/-- A line of a source is in one line, and bears the path of the source. -/
theorem of_mem_ofSource {path source : Text} {line : SourceLine}
    (member : line ∈ ofSource path source) : Unbroken line.text ∧ line.origin.path = path := by
  unfold ofSource at member
  split at member
  · cases member
  · exact (of_mem_number member).imp_left unbroken_of_mem_lines

end SourceLine

/-! ## Sources of identifiers -/

namespace IdSource

theorem unbroken_draws_numbered (n s : Nat) : ∀ id ∈ (numbered.draws n s).1, Unbroken id := by
  induction n generalizing s with
  | zero => exact List.forall_mem_nil _
  | succ n ih =>
      have first : Unbroken ('S' :: Text.ofNat (s + 1)) :=
        unbroken_cons.mpr ⟨by decide, unbroken_ofNat (s + 1)⟩
      exact List.forall_mem_cons.mpr ⟨first, ih (s + 1)⟩

end IdSource

/-! ## Diagnostics -/

theorem Severity.unbroken_name (severity : Severity) : Unbroken severity.name := by
  cases severity <;> decide

theorem Diagnostic.unbroken_render {d : Diagnostic} (path : Unbroken d.origin.path)
    (message : Unbroken d.message) : Unbroken d.render := by
  simp [render, Origin.render, path, message, unbroken_ofNat, d.severity.unbroken_name, isBreak]

/-- A diagnostic bears the origin of a line. -/
theorem Draft.exists_line_of_mem_diagnostics {lines : List SourceLine} {d : Diagnostic}
    (member : d ∈ (ofLines lines).diagnostics) : ∃ line ∈ lines, d.origin = line.origin := by
  rw [ofLines_eq, diagnostics_close, diagnostics_upTo] at member
  obtain ⟨s, site, told⟩ := List.mem_flatMap.mp member
  refine ⟨s.line, map_line_sites lines ▸ List.mem_map_of_mem site, ?_⟩
  rcases List.mem_append.mp told with error | warning
  · exact (Site.of_mem_errors error).2
  · exact (Site.of_mem_warnings warning).2

/-! ## Extractions -/

section

variable {σ : Type} (source : IdSource σ) (state : σ) (options : Options)

/-- Without an earlier forest every name was drawn. -/
theorem exists_draws_of_mem_snippetIds {lines : List SourceLine} {id : Text}
    (member : id ∈ snippetIds (extractLines source state options none lines).extraction.scenes) :
    ∃ n, id ∈ (source.draws n state).1 := by
  rw [snippetIds_of_none, List.map_map, Drawing.names_ofLines] at member
  obtain ⟨s, inForest, rfl⟩ := List.mem_map.mp member
  have within := id_lt_length_names source state options lines inForest
  rw [Drawing.names_ofLines] at within
  have issued := List.getElem_mem within
  rw [← List.getD_eq_getElem _ [] within] at issued
  exact source.exists_draws_of_mem_issue options.uniqueIds issued

theorem unbroken_extractLines (names : ∀ n, ∀ id ∈ (source.draws n state).1, Unbroken id)
    {lines : List SourceLine} (unbroken : ∀ line ∈ lines, Unbroken line.text) :
    ∀ t ∈ (extractLines source state options none lines).extraction.texts, Unbroken t := by
  have whole := Draft.whole_ofLines unbroken
  simp only [Extraction.texts, List.forall_mem_append, List.forall_mem_flatMap, List.forall_mem_map]
  refine ⟨⟨⟨fun id member => ?_, ?_⟩, whole.taggedLines⟩, whole.messages⟩
  · obtain ⟨n, drawn⟩ := exists_draws_of_mem_snippetIds source state options member
    exact names n id drawn
  · refine List.forall_mem_map.mpr fun s member => ?_
    rw [Scene.texts_map]
    exact whole.scenes s member

end

/-- **No text of an extraction but its paths holds a line break**, if no identifier that is drawn
does. The lines of a dump are then those of the outline, and a diagnostic is one line, if its path
is. -/
theorem extract_unbroken {σ : Type} (source : IdSource σ) (state : σ) (options : Options)
    (path text : Text) (names : ∀ n, ∀ id ∈ (source.draws n state).1, Unbroken id) :
    let e := (extract source state options none path text).extraction
    (∀ t ∈ e.texts, Unbroken t) ∧
    (∀ s ∈ e.scenes,
      s.dump = join ['\n'] s.outline ∧ (∀ line ∈ s.outline, Unbroken line) ∧
      lines s.dump = s.outline ∧ dumpedLines s.dump = s.outline ∧
      s.outline.length = 1 + s.blocks.length + s.snippets.length + s.beats.length) ∧
    (Unbroken path → ∀ d ∈ e.diagnostics, Unbroken d.render ∧ lines d.render = [d.render]) := by
  intro e
  have texts : ∀ t ∈ e.texts, Unbroken t :=
    unbroken_extractLines source state options names fun line member =>
      (SourceLine.of_mem_ofSource member).1
  refine ⟨texts, fun s member => ?_, fun pathUnbroken d member => ?_⟩
  · simp only [Extraction.texts, List.forall_mem_append, List.forall_mem_flatMap] at texts
    obtain ⟨⟨⟨ids, scenes⟩, -⟩, -⟩ := texts
    have named : ∀ n ∈ s.snippets, Unbroken n.id := fun n inScene =>
      ids n.id (List.mem_map_of_mem (List.mem_flatMap.mpr ⟨s, member, inScene⟩))
    have whole := scenes s member
    obtain ⟨split, dumped⟩ := Scene.lines_dump named whole
    exact ⟨Scene.dump_eq named whole, fun line inOutline =>
      (Scene.isLine_outline named whole line inOutline).1, split, dumped, s.length_outline⟩
  · obtain ⟨line, inSource, origin⟩ := Draft.exists_line_of_mem_diagnostics member
    have path_ : d.origin.path = path := origin ▸ (SourceLine.of_mem_ofSource inSource).2
    have message : Unbroken d.message :=
      texts d.message (List.mem_append_right _ (List.mem_map_of_mem member))
    have shown := Diagnostic.unbroken_render (path_ ▸ pathUnbroken) message
    exact ⟨shown, lines_of_unbroken shown⟩

/-- Line breaks of all kinds, one of them in a comment that is left out. There are a block, two
snippets and two beats, and the second beat has no identifier. -/
theorem extract_unbroken_of_breaks :
    let e := (extract .numbered 0 {} none "a.ink".toList
      "== K\r\n#dink\n/* x\ry */FRED: Hi. #id:a\r* [Go] // z\r\nSUE: Ho.".toList).extraction
    e.scenes.length = 1 ∧ (∀ s ∈ e.scenes, (lines s.dump).length = 6) ∧
      e.diagnostics.length = 1 ∧ ∀ d ∈ e.diagnostics, lines d.render = [d.render] := by
  intro e
  obtain ⟨-, dumps, renders⟩ := extract_unbroken .numbered 0 {} "a.ink".toList
    "== K\r\n#dink\n/* x\ry */FRED: Hi. #id:a\r* [Go] // z\r\nSUE: Ho.".toList
    fun n => IdSource.unbroken_draws_numbered n 0
  have counts : ∀ s ∈ e.scenes, 1 + s.blocks.length + s.snippets.length + s.beats.length = 6 := by
    decide +kernel
  refine ⟨by decide +kernel, fun s member => ?_, by decide +kernel, fun d member => ?_⟩
  · obtain ⟨-, -, split, -, count⟩ := dumps s member
    rw [split, count, counts s member]
  · exact (renders (by decide) d member).2

end Beatsheet

/-
# Beatsheet.Proofs.Extract.Report — diagnostics are exact

The diagnostics of an extraction are those of its lines, in their order, and of one line the errors
come first. Each of the three complaints is made of just the lines it is about
(`extractLines_reports`): a missing identifier of every beat that has none, speech outside of the
lines of speech where the annotation is off, and content behind a clause of the lines that have it
where the annotation is on. The complaints are told apart by how their messages begin.
-/
import Beatsheet.Proofs.Draft.Report
import Beatsheet.Proofs.Extract.Comments

set_option autoImplicit false

namespace Beatsheet

namespace Diagnostic

/-- Whether the diagnostic says that a beat has no identifier. -/
def isLacking (d : Diagnostic) : Bool :=
  "beat is missing a line id: ".toList.isPrefixOf d.message

/-- Whether the diagnostic says that speech stands where the annotation is off. -/
def isOutside (d : Diagnostic) : Bool :=
  "dialogue line outside a #dink-tagged section: ".toList.isPrefixOf d.message

def isError (d : Diagnostic) : Bool :=
  d.severity = .error

end Diagnostic

/-! ## Telling complaints apart -/

namespace Complaint

variable (c : Complaint) (origin : Origin)

theorem isLacking_diagnostic :
    (c.diagnostic origin).isLacking = match c with | .missingId _ => true | _ => false := by
  cases c with
  | contentAfterClause line => rfl
  | speechOutside line => rfl
  | missingId text => exact List.isPrefixOf_iff_prefix.mpr (List.prefix_append _ text)

theorem isOutside_diagnostic :
    (c.diagnostic origin).isOutside = match c with | .speechOutside _ => true | _ => false := by
  cases c with
  | contentAfterClause line => rfl
  | speechOutside line => exact List.isPrefixOf_iff_prefix.mpr (List.prefix_append _ line)
  | missingId text => rfl

theorem isError_diagnostic :
    (c.diagnostic origin).isError = match c with | .contentAfterClause _ => true | _ => false := by
  cases c <;> rfl

end Complaint

open Complaint (isLacking_diagnostic isOutside_diagnostic isError_diagnostic)

/-! ## What one line reports -/

namespace Draft

variable (d : Draft) (line : SourceLine)

theorem of_mem_lacking {beats : List Beat} {x : Diagnostic} (member : x ∈ beats.flatMap lacking) :
    ∃ beat ∈ beats, x = (Complaint.missingId beat.text).diagnostic beat.origin := by
  obtain ⟨beat, inside, lacks⟩ := List.mem_flatMap.mp member
  unfold lacking at lacks
  split at lacks
  · exact ⟨beat, inside, List.mem_singleton.mp lacks⟩
  · cases lacks

/-- What is said of beats is all kept or all left out. -/
theorem filter_lacking {p : Diagnostic → Bool} {b : Bool}
    (same : ∀ text origin, p ((Complaint.missingId text).diagnostic origin) = b)
    (beats : List Beat) :
    (beats.flatMap lacking).filter p = if b then beats.flatMap lacking else [] := by
  have each : ∀ x ∈ beats.flatMap lacking, p x = b := by
    intro x member
    obtain ⟨beat, -, rfl⟩ := of_mem_lacking member
    exact same beat.text beat.origin
  cases b with
  | true => exact List.filter_eq_self.mpr each
  | false => exact List.filter_eq_nil_iff.mpr fun x member => by simp [each x member]

theorem filter_isLacking :
    (d.errors line ++ d.warnings line).filter Diagnostic.isLacking =
      (d.beat? line).toList.flatMap lacking := by
  rw [errors, warnings, List.filter_append, List.filter_append,
    filter_lacking fun text origin => isLacking_diagnostic (.missingId text) origin]
  split <;> split <;> simp [isLacking_diagnostic]

theorem filter_isOutside :
    (d.errors line ++ d.warnings line).filter Diagnostic.isOutside =
      if !d.cascade.active && line.speaks then
        [(Complaint.speechOutside line.body).diagnostic line.origin] else [] := by
  rw [errors, warnings, List.filter_append, List.filter_append,
    filter_lacking fun text origin => isOutside_diagnostic (.missingId text) origin]
  split <;> split <;> simp [isOutside_diagnostic]

theorem filter_isError :
    (d.errors line ++ d.warnings line).filter Diagnostic.isError = d.errors line := by
  rw [errors, warnings, List.filter_append, List.filter_append,
    filter_lacking fun text origin => isError_diagnostic (.missingId text) origin]
  split <;> split <;> simp [isError_diagnostic]

end Draft

namespace Site

variable {s : Site} {d : Diagnostic}

theorem of_mem_errors (member : d ∈ s.errors) :
    d.severity = .error ∧ d.origin = s.line.origin := by
  unfold errors Draft.errors at member
  split at member
  · obtain rfl := List.mem_singleton.mp member
    exact ⟨rfl, rfl⟩
  · cases member

/-- A beat stands at the origin of its line, so what is said of it does too. -/
theorem of_mem_warnings (member : d ∈ s.warnings) :
    d.severity = .warning ∧ d.origin = s.line.origin := by
  unfold warnings Draft.warnings at member
  rcases List.mem_append.mp member with outside | lacks
  · split at outside
    · obtain rfl := List.mem_singleton.mp outside
      exact ⟨rfl, rfl⟩
    · cases outside
  · obtain ⟨beat, found, rfl⟩ := Draft.of_mem_lacking lacks
    exact ⟨rfl, (beat?_eq (Option.mem_toList.mp found)).1⟩

end Site

/-! ## Extractions -/

/-- What is said once of each item that satisfies a test. -/
theorem flatMap_ite_singleton {α β : Type} (p : α → Bool) (f : α → β) (as : List α) :
    (as.flatMap fun a => if p a then [f a] else []) = (as.filter p).map f := by
  induction as with
  | nil => rfl
  | cons a rest ih => cases holds : p a <;> simp [holds, ih]

/-- **The diagnostics are exact.** Those of an extraction are those of its lines, in their order, and
of one line an error comes before the warnings. The beats that have no identifier are complained of
one by one; so are the lines of speech where the annotation is off, and the lines with content
behind the colon of a clause where it is on. -/
theorem extractLines_reports {σ : Type} (source : IdSource σ) (state : σ) (options : Options)
    (previous : Option (List (Scene Text))) (lines : List SourceLine) :
    let e := (extractLines source state options previous lines).extraction
    (e.diagnostics = (sites lines).flatMap fun s => s.errors ++ s.warnings) ∧
      (∀ s : Site, (∀ d ∈ s.errors, d.severity = .error ∧ d.origin = s.line.origin) ∧
        ∀ d ∈ s.warnings, d.severity = .warning ∧ d.origin = s.line.origin) ∧
      e.diagnostics.filter Diagnostic.isLacking =
        (e.beats.filter (·.id.isEmpty)).map
          (fun beat => (Complaint.missingId beat.text).diagnostic beat.origin) ∧
      e.diagnostics.filter Diagnostic.isOutside =
        ((sites lines).filter fun s => !s.draft.cascade.active && s.line.speaks).map
          (fun s => (Complaint.speechOutside s.line.body).diagnostic s.line.origin) ∧
      e.diagnostics.filter Diagnostic.isError =
        ((sites lines).filter fun s => s.draft.cascade.active && s.line.strays).map
          (fun s => (Complaint.contentAfterClause s.line.body).diagnostic s.line.origin) := by
  intro e
  have all : e.diagnostics = (sites lines).flatMap fun s => s.errors ++ s.warnings := by
    rw [extractLines_diagnostics, Draft.ofLines_eq, Draft.diagnostics_close,
      Draft.diagnostics_upTo]
  have beats : e.beats = (sites lines).filterMap Site.beat? :=
    beats_extractLines source state options previous lines
  refine ⟨all, fun s => ⟨fun d => Site.of_mem_errors, fun d => Site.of_mem_warnings⟩, ?_, ?_, ?_⟩
  · rw [all, List.filter_flatMap, ← flatMap_ite_singleton, beats, List.filterMap_eq_flatMap_toList,
      List.flatMap_assoc]
    exact List.flatMap_congr fun s _ => s.draft.filter_isLacking s.line
  · rw [all, List.filter_flatMap, ← flatMap_ite_singleton]
    exact List.flatMap_congr fun s _ => s.draft.filter_isOutside s.line
  · rw [all, List.filter_flatMap, ← flatMap_ite_singleton]
    exact List.flatMap_congr fun s _ => s.draft.filter_isError s.line

/-- A line can be complained of twice: behind a clause is a beat without an identifier. The line of
speech before the switch has one, and is complained of for where it stands. -/
example :
    (extractLines IdSource.numbered 0 {} none
      (SourceLine.ofSource "a.ink".toList
        "== K\nANNA: Hi. #id:a\n#dink\n- 2: Yes.\nBERT: So. #id:b".toList)).extraction.diagnostics =
      [(Complaint.speechOutside "ANNA: Hi. #id:a".toList).diagnostic ⟨"a.ink".toList, 2⟩,
        (Complaint.contentAfterClause "- 2: Yes.".toList).diagnostic ⟨"a.ink".toList, 4⟩,
        (Complaint.missingId "Yes.".toList).diagnostic ⟨"a.ink".toList, 4⟩] := by
  decide +kernel

end Beatsheet

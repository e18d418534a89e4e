/-
# Beatsheet.Extract — extraction

An extraction is a draft whose snippets have their names: those issued by a source of identifiers,
in the order in which the snippets were started, and over them the names taken from an earlier
forest.
-/
import Beatsheet.Draft
import Beatsheet.Options
import Beatsheet.Identity.Source
import Beatsheet.Continuity.Reuse

set_option autoImplicit false

namespace Beatsheet

/-- An extraction, what happened on the way, and what is left of the source of identifiers. -/
structure Outcome (σ : Type) where
  extraction : Extraction
  events : List Event
  source : σ

/-- The draft's scenes with the names that were issued. -/
def Draft.named (d : Draft) (ids : List Text) : List (Scene Text) :=
  d.scenes.map (Scene.map fun s => ids.getD s.id [])

/-- Extracts from lines. Names are taken over from `previous`, if there is an earlier forest. -/
def extractLines {σ : Type} (source : IdSource σ) (state : σ) (options : Options)
    (previous : Option (List (Scene Text))) (lines : List SourceLine) : Outcome σ :=
  let draft := Draft.ofLines lines
  let (ids, state) := source.issue options.uniqueIds draft.started [] state
  let scenes := draft.named ids
  let result (scenes : List (Scene Text)) : Extraction :=
    { scenes, taggedLines := draft.taggedLines, diagnostics := draft.diagnostics }
  match previous with
  | none => ⟨result scenes, draft.events, state⟩
  | some previous =>
    let (scenes, count) := reconcile options.minOverlap previous scenes
    ⟨result scenes, draft.events ++ [.idsReused count], state⟩

/-- Extracts from the text of a source. -/
def extract {σ : Type} (source : IdSource σ) (state : σ) (options : Options)
    (previous : Option (List (Scene Text))) (path text : Text) : Outcome σ :=
  extractLines source state options previous (SourceLine.ofSource path text)

/-- Extracts from versions of one source, each with the forest of the version before it. -/
def extractVersions {σ : Type} (source : IdSource σ) (options : Options) (path : Text) :
    (state : σ) → (previous : Option (List (Scene Text))) → List Text → List Extraction
  | _, _, [] => []
  | state, previous, text :: rest =>
    let outcome := extract source state options previous path text
    outcome.extraction ::
      extractVersions source options path outcome.source (some outcome.extraction.scenes) rest

/-- Extracts from the first line, from the first two, and so on up to all of them. Each time the
source of identifiers starts anew, and names are taken over from the same earlier forest. -/
def extractSteps {σ : Type} (source : IdSource σ) (state : σ) (options : Options)
    (previous : Option (List (Scene Text))) (lines : List SourceLine) : List Extraction :=
  (List.range lines.length).map fun n =>
    (extractLines source state options previous (lines.take (n + 1))).extraction

end Beatsheet

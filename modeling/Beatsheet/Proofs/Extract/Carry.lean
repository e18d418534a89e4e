/-
# Beatsheet.Proofs.Extract.Carry — the comments of a snippet

The comments of a snippet are what the boundaries before its first beat have handed over, as far
back as the last beat before that or the header of the block, whichever comes later
(`extractLines_handed`). The first of these boundaries has put the snippet before it away; the
snippets that the others started have come to nothing, and have passed on what they were given.

The invariant is that of `Draft.Carries`: behind any lines the open snippet carries what the
boundaries in the last stretch of the script have handed over.
-/
import Beatsheet.Proofs.Draft.Carry
import Beatsheet.Proofs.Draft.Header
import Beatsheet.Proofs.Extract.Boundary
import Beatsheet.Proofs.Extract.Brace

set_option autoImplicit false

namespace Beatsheet

/-! ## The last stretch of a script -/

/-- Whether the line is a beat or a header. -/
def Site.restarts (s : Site) : Bool :=
  s.isBeat || s.line.isHeader

/-- The sites behind the last beat or header. -/
def stretch (lines : List SourceLine) : List Site :=
  (sites lines).rtakeWhile fun s => !s.restarts

/-- The last beat or header. -/
def lastRestart? (lines : List SourceLine) : Option Site :=
  ((sites lines).filter Site.restarts).getLast?

/-- Whether a snippet that is open behind the lines has no beat: the last beat stands before the
last header, or before a boundary. -/
def startsFresh (lines : List SourceLine) : Bool :=
  !(lastRestart? lines).any Site.isBeat || (stretch lines).any (·.line.isBoundary)

section Concat

variable {lines : List SourceLine} {line : SourceLine}

theorem stretch_concat (lines : List SourceLine) (line : SourceLine) :
    stretch (lines ++ [line]) =
      if Site.restarts ⟨lines, line⟩ then [] else stretch lines ++ [⟨lines, line⟩] := by
  rw [stretch, sites_concat]
  split
  · rename_i restarts
    exact List.rtakeWhile_concat_neg _ _ _ (by simp [restarts])
  · rename_i goesOn
    exact List.rtakeWhile_concat_pos _ _ _ (by simp [goesOn])

theorem lastRestart?_concat (lines : List SourceLine) (line : SourceLine) :
    lastRestart? (lines ++ [line]) =
      if Site.restarts ⟨lines, line⟩ then some ⟨lines, line⟩ else lastRestart? lines := by
  rw [lastRestart?, sites_concat, List.filter_append]
  split
  · rename_i restarts
    simp [restarts]
  · rename_i goesOn
    simp [goesOn, lastRestart?]

theorem startsFresh_concat (lines : List SourceLine) (line : SourceLine) :
    startsFresh (lines ++ [line]) =
      if Site.isBeat ⟨lines, line⟩ then false
      else line.isHeader || startsFresh lines || line.isBoundary := by
  rw [startsFresh, stretch_concat, lastRestart?_concat, Site.restarts, startsFresh]
  cases beat : Site.isBeat ⟨lines, line⟩ with
  | true => simp [beat]
  | false =>
      cases line.isHeader with
      | true => simp [beat]
      | false => simp [Bool.or_assoc]

end Concat

/-! ## What a line hands over -/

namespace Site

/-- The comments that the line hands over to the next snippet: what waits there, and the mark of a
choice or of a merge. Nothing is handed over where braces open, for the level takes it, nor by
speech where the annotation is on, unless its line is also a bare clause. -/
def handed (s : Site) : List Text :=
  let waits := waiting s.before ++ s.line.trailing
  match s.line.turn? with
  | none | some (.opening _) => []
  | some .closing => waits ++ if s.draft.endsGroup then [Draft.mergeMark] else []
  | some .speech => if s.draft.cascade.active && !s.line.isClause then [] else waits
  | some (.choice text) => waits ++ [Draft.choiceMark text]
  | some .gather => waits ++ if s.draft.merging then [Draft.mergeMark] else []
  | some .other => waits

theorem handed_eq (s : Site) : s.draft.handed s.line = s.handed := by
  have waits : (s.draft.heard s.line).pending = waiting s.before ++ s.line.trailing := by
    rw [Draft.pending_heard, draft, Draft.pending_upTo]
  have alike := s.draft.alike_heard s.line
  have ends : (s.draft.heard s.line).endsGroup = s.draft.endsGroup := by
    rw [Draft.endsGroup, alike.levels, alike.groupDepth, Draft.endsGroup]
  have turned := s.draft.pending_turned s.line
  rw [← Draft.pending_heard, waits] at turned
  rw [Draft.handed, handed, turned]
  cases turn : s.line.turn? with
  | none =>
      have plain : s.line.isClause = false := by
        by_contra clause
        have turns := SourceLine.isSome_turn?_of_isClause (eq_true_of_ne_false clause)
        rw [turn] at turns
        cases turns
      simp [plain]
  | some t =>
      cases t with
      | speech =>
          simp only [Option.elim_some, Draft.handedBy, waits, s.draft.active_heard s.line]
          cases s.draft.cascade.active <;> cases s.line.isClause <;> simp
      | opening group | closing | choice text | gather | other =>
          simp [Draft.handedBy, waits, ends]

/-- A beat is no clause, so it hands over what its turn does. -/
theorem handed_of_isBeat {s : Site} (beat : s.isBeat = true) :
    s.handed = s.line.turn?.elim [] (s.draft.heard s.line).handedBy := by
  have plain : s.line.isClause = false := by
    rw [isBeat, Draft.readsBeat, Option.any_eq_true] at beat
    obtain ⟨ways, prose, -⟩ := beat
    unfold SourceLine.prose? at prose
    split at prose
    · rename_i kind
      rw [SourceLine.isClause, kind]
    · cases prose
  rw [← handed_eq, Draft.handed, plain]
  simp

/-- A line that is no boundary hands over nothing. -/
theorem handed_of_not_isBoundary {s : Site} (quiet : s.line.isBoundary = false) :
    s.handed = [] := by
  rw [SourceLine.isBoundary_eq, Option.isSome_eq_false_iff, Option.isNone_iff_eq_none] at quiet
  rw [handed, quiet]

/-- The boundaries behind the last beat or header, up to the line and with it. -/
def boundaries (s : Site) : List Site :=
  (stretch s.before ++ [s]).filter (·.line.isBoundary)

/-- Whether the line is the first beat of a snippet: no beat stands behind the last header before
it, or there is a boundary between that beat and this one. -/
def begins (s : Site) : Bool :=
  s.isBeat && (!(lastRestart? s.before).any isBeat || !s.boundaries.isEmpty)

theorem begins_eq (s : Site) :
    s.begins = (s.isBeat && (startsFresh s.before || s.line.isBoundary)) := by
  have any : ∀ list : List Site,
      (!(list.filter (·.line.isBoundary)).isEmpty) = list.any (·.line.isBoundary) := by
    intro list
    induction list with
    | nil => rfl
    | cons t rest ih => cases boundary : t.line.isBoundary <;> simp [boundary, ih]
  rw [begins, boundaries, any, startsFresh, List.any_append, List.any_cons, List.any_nil,
    Bool.or_false, Bool.or_assoc]

/-- Lines that are no boundaries can be left out. -/
theorem flatMap_boundaries (s : Site) :
    s.boundaries.flatMap handed = (stretch s.before).flatMap handed ++ s.handed := by
  have all : ∀ list : List Site,
      (list.filter (·.line.isBoundary)).flatMap handed = list.flatMap handed := by
    intro list
    induction list with
    | nil => rfl
    | cons t rest ih =>
        cases boundary : t.line.isBoundary with
        | true => simp [boundary, ih]
        | false => simp [boundary, ih, handed_of_not_isBoundary boundary]
  rw [boundaries, all]
  simp

end Site

/-! ## What is carried -/

namespace Draft

/-- A scene is opened by its knot header. -/
theorem isSome_knot?_of_opened {d : Draft} {line : SourceLine} (before : d.opened = none)
    (opened : (d.step line).opened.isSome = true) : line.knot?.isSome = true := by
  have none_ : d.outline.headings = none := by rw [outline, before, Option.map_none]
  rw [← isSome_headings_outline, outline_step] at opened
  simp only [Outline.step, Outline.headingsAfter, none_] at opened
  split at opened
  · rename_i scene knot
    rw [knot]
    rfl
  · cases opened
  · cases opened

/-- **Behind any lines an open snippet carries what the boundaries of the last stretch have handed
over.** -/
theorem carries_upTo (lines : List SourceLine) (opened : (upTo lines).opened.isSome = true) :
    (upTo lines).Carries ((stretch lines).flatMap Site.handed) (startsFresh lines) := by
  induction lines using List.reverseRecOn with
  | nil => cases opened
  | append_singleton rest line ih =>
      have here : Site.isBeat ⟨rest, line⟩ = (upTo rest).readsBeat line := rfl
      rw [upTo_concat] at opened ⊢
      cases before : (upTo rest).opened with
      | none =>
          obtain ⟨heading, knot⟩ :=
            Option.isSome_iff_exists.mp (isSome_knot?_of_opened before opened)
          have header : line.isHeader = true := by simp [SourceLine.isHeader, knot]
          have silent : Site.isBeat ⟨rest, line⟩ = false := by
            obtain ⟨turn, kind, -⟩ := SourceLine.kind_of_knot knot
            rw [here, readsBeat, SourceLine.prose?, kind, Option.any_none]
          rw [step_of_knot knot, stretch_concat, startsFresh_concat, Site.restarts, silent, header]
          exact Carries.beginScene _ _ _
      | some o =>
          have step := (ih (by rw [before]; rfl)).step line
          have handed : (upTo rest).handed line = Site.handed ⟨rest, line⟩ :=
            Site.handed_eq ⟨rest, line⟩
          rw [handed, ← here] at step
          rw [stretch_concat, startsFresh_concat, Site.restarts, SourceLine.isBoundary_eq]
          cases beat : Site.isBeat ⟨rest, line⟩ <;> cases header : line.isHeader <;>
            simpa [beat, header] using step

/-! ## First beats -/

/-- The view that tells the first beat of each snippet and the comments of the snippet. -/
def heading (frame : Frame) (beats : List Beat) : List (Origin × List Text) :=
  (beats.head?.map fun beat => (beat.origin, frame.comments)).toList

theorem heading_nil (frame : Frame) : heading frame [] = [] := rfl

theorem headed_upTo (lines : List SourceLine) :
    (upTo lines).view heading =
      ((sites lines).filter Site.begins).map fun s =>
        (s.line.origin, s.boundaries.flatMap Site.handed) := by
  induction lines using List.reverseRecOn with
  | nil => rfl
  | append_singleton rest line ih =>
      have here : Site.isBeat ⟨rest, line⟩ = (upTo rest).readsBeat line := rfl
      rw [upTo_concat, sites_concat, List.filter_append, List.map_append, ← ih]
      rcases view_step heading_nil (upTo rest) line with
        ⟨reads, same⟩ | ⟨reads, o, added, front, opened, origin, was, now⟩
      · simp [Site.begins, here, reads, same]
      · have carries := carries_upTo rest (active_of_readsBeat reads).2
        obtain ⟨o', opened', carried, empty⟩ := carries.turned line
        obtain rfl := Option.some.inj (opened.symm.trans opened')
        have begins : Site.begins ⟨rest, line⟩ = o.snippet.beats.isEmpty := by
          rw [Site.begins_eq, here, reads, empty, SourceLine.isBoundary_eq, Bool.true_and]
        cases beats : o.snippet.beats with
        | nil =>
            have handed : Site.handed ⟨rest, line⟩ =
                line.turn?.elim [] ((upTo rest).heard line).handedBy :=
              Site.handed_of_isBeat (here.trans reads)
            have comments : o.snippet.comments =
                (Site.boundaries ⟨rest, line⟩).flatMap Site.handed := by
              rw [Site.flatMap_boundaries, handed, ← carried, Opened.carried, beats]
              rfl
            rw [beats] at was now
            simp [begins, beats, was, now, heading, origin, Snippet.frame, comments]
        | cons first more =>
            rw [beats] at was now
            simp [begins, beats, was, now, heading]

end Draft

/-! ## Extractions -/

/-- **The comments of a snippet are what the boundaries before it have handed over.** The snippets
of an extraction begin with the lines that begin one, in their order. The comments of each are what
was handed over, in this order, by the boundaries behind the last beat before it, of which the first
has put the snippet of that beat away; or, if it is the first snippet of its block, by those behind
the header. -/
theorem extractLines_handed {σ : Type} (source : IdSource σ) (state : σ) (options : Options)
    (previous : Option (List (Scene Text))) (lines : List SourceLine) :
    (extractLines source state options previous lines).extraction.snippets.map
        (fun s => (s.origin, s.comments)) =
      ((sites lines).filter Site.begins).map fun t =>
        (t.line.origin, t.boundaries.flatMap Site.handed) := by
  rw [← Draft.headed_upTo,
    ← view_extractLines source state options previous lines Draft.heading_nil,
    ← List.flatMap_pure_eq_map]
  refine List.flatMap_congr fun s member => ?_
  have filled : s.beats.head?.map (·.origin) = some s.origin :=
    filled_extractLines source state options previous lines s member
  obtain ⟨first, found, origin⟩ := Option.map_eq_some_iff.mp filled
  simp [Snippet.view, Draft.heading, found, origin, Snippet.frame]

/-- Two choices that come to nothing and the gather behind them leave their comments to the next
snippet; the brace that opens adds nothing to these, and the one that ends its group a mark. -/
example :
    (extractLines IdSource.numbered 0 {} none
      (SourceLine.ofSource "a.ink".toList
        ("== K\n#dink\n// one\n* [Go]\n// two\n* [Stay]\n-\n// three\n\x7b x:\n" ++
          "ANNA: Hi. #id:a\n\x7d\nBERT: So. #id:b").toList)).extraction.snippets.map (·.comments) =
      [["one".toList, "OPTION \"Go\"".toList, "two".toList, "OPTION \"Stay\"".toList,
        "MERGE".toList], ["MERGE".toList]] := by
  decide +kernel

end Beatsheet

/-
# Beatsheet.Proofs.Draft.Report — what a line reports

A line can be complained of in three ways, and each depends on the annotation: content behind the
colon of a clause and a beat without an identifier are faults where it is on, speech is one where it
is off. No turn of the flow and no header is complained of, so what a line reports can be told from
its site (`diagnostics_step`), and the diagnostics of a script are what its sites report, in their
order (`diagnostics_upTo`).
-/
import Beatsheet.Proofs.Draft.Active
import Beatsheet.Proofs.Draft.Beat
import Beatsheet.Proofs.Draft.Remark

set_option autoImplicit false

namespace Beatsheet

namespace SourceLine

/-- Whether the line is content that goes on behind the colon of a clause. -/
def strays (line : SourceLine) : Bool :=
  line.isContent && (Clause.ofLine? line.body).any (!·.rest.isEmpty)

/-- Whether the line is prose that can be read as speech. -/
def speaks (line : SourceLine) : Bool :=
  line.prose?.isSome && (Speech.ofLine? line.body).isSome

variable {line : SourceLine} {turn : Option Turn} {ways : Prose}

theorem prose?_eq_some_iff :
    line.prose? = some ways ↔ ∃ turn, line.kind = .content turn (.prose ways) := by
  unfold prose?
  split
  · rename_i turn found kind
    simp [kind]
  · rename_i other
    constructor
    · nofun
    · rintro ⟨turn, kind⟩
      exact absurd kind (other turn ways)

/-- The ways to read a line of prose are those of its text. -/
theorem prose_eq (kind : line.kind = .content turn (.prose ways)) :
    ways = Prose.ofLine line.strays line.body := by
  have content : line.isContent = true := by rw [isContent, kind]
  obtain ⟨-, role⟩ := content_eq kind
  change Role.prose ways = Role.ofLine line.body at role
  rw [strays, content, Bool.true_and]
  unfold Role.ofLine at role
  split at role
  · rename_i clause found
    split at role
    · cases role
    · rename_i rest
      rw [Role.prose.inj role, found, Option.any_some, eq_false_of_ne_true rest, Bool.not_false]
  · rename_i none_
    rw [none_, Option.any_none]
    split at role
    · cases role
    · split at role
      · cases role
      · split at role
        · cases role
        · exact Role.prose.inj role

/-- Content behind the colon of a clause makes a line prose. -/
theorem isSome_prose?_of_strays (strays : line.strays = true) : line.prose?.isSome = true := by
  rw [SourceLine.strays, Bool.and_eq_true, Option.any_eq_true] at strays
  obtain ⟨content, clause, found, rest⟩ := strays
  unfold isContent at content
  split at content
  · rename_i turn role kind
    have told := (content_eq kind).2
    change role = Role.ofLine line.body at told
    rw [Role.ofLine, found] at told
    dsimp only at told
    rw [if_neg (by simpa using rest)] at told
    rw [Option.isSome_iff_exists]
    exact ⟨_, prose?_eq_some_iff.mpr ⟨turn, told ▸ kind⟩⟩
  · cases content

end SourceLine

namespace Draft

/-! ## Operations that report nothing -/

section Silent

variable (d : Draft)

theorem diagnostics_emit_of_none {event : Event} (silent : event.diagnostic? = none) :
    (d.emit event).diagnostics = d.diagnostics := by
  rw [diagnostics_emit, silent]
  exact List.append_nil _

@[simp] theorem diagnostics_boundary : d.boundary.diagnostics = d.diagnostics := by
  rw [diagnostics, events_boundary, diagnostics]

@[simp] theorem diagnostics_close : d.close.diagnostics = d.diagnostics := by
  rw [diagnostics, events_close, diagnostics]

theorem diagnostics_openLevel (group : Bool) :
    (d.openLevel group).diagnostics = d.diagnostics := by
  rw [openLevel, diagnostics_boundary]
  split
  · exact diagnostics_emit_of_none _ rfl
  · rfl

theorem diagnostics_closeLevel : d.closeLevel.diagnostics = d.diagnostics := by
  have counted : ∀ e : Draft, e.countGroup.diagnostics = e.diagnostics := fun _ => rfl
  unfold closeLevel
  dsimp only
  split
  · rw [counted, diagnostics_boundary]
    exact diagnostics_emit_of_none _ rfl
  · exact diagnostics_boundary _

@[simp] theorem diagnostics_turn (turn : Turn) : (d.turn turn).diagnostics = d.diagnostics := by
  cases turn with
  | opening group => exact d.diagnostics_openLevel group
  | closing => exact d.diagnostics_closeLevel
  | speech =>
      rw [Draft.turn]
      split
      · exact diagnostics_boundary { d with pending := [] }
      · exact diagnostics_boundary _
  | choice text => exact diagnostics_boundary _
  | gather =>
      rw [Draft.turn]
      split <;> exact diagnostics_boundary _
  | other => exact diagnostics_boundary _

@[simp] theorem diagnostics_turned (line : SourceLine) :
    (d.turned line).diagnostics = d.diagnostics := by
  have heard : (d.heard line).diagnostics = d.diagnostics := by
    unfold heard
    cases line.kind
    all_goals cases (Reading.ofLine line.text).comment <;> rfl
  unfold turned
  cases line.turn? with
  | none => exact heard
  | some turn => exact (diagnostics_turn _ turn).trans heard

theorem diagnostics_beginScene (id : Text) (origin : Origin) :
    (d.beginScene id origin).diagnostics = d.diagnostics := by
  have begun : (({ d.close with cascade := d.cascade.beginScene } : Draft).emit
      (.sceneBegun id)).diagnostics = d.diagnostics :=
    (diagnostics_emit_of_none _ rfl).trans d.diagnostics_close
  exact begun

theorem diagnostics_beginBlock (id : Text) (origin : Origin) :
    (d.beginBlock id origin).diagnostics = d.diagnostics := by
  have begun : (({ d with cascade := d.cascade.beginBlock } : Draft).emit
      (.blockBegun id)).diagnostics = d.diagnostics := diagnostics_emit_of_none _ rfl
  unfold beginBlock
  dsimp only
  split <;> exact begun

@[simp] theorem diagnostics_passBy (origin : Origin) (tagged : Option Tagged) :
    (d.passBy origin tagged).diagnostics = d.diagnostics := by
  unfold passBy
  cases tagged with
  | none => rfl
  | some t => exact diagnostics_emit_of_none _ rfl

end Silent

/-! ## Faults -/

theorem diagnostics_complain (d : Draft) (complaint : Complaint) (origin : Origin) :
    (d.complain complaint origin).diagnostics =
      d.diagnostics ++ [complaint.diagnostic origin] := by
  rw [complain, diagnostics_emit]
  rfl

/-- The complaint of a beat, if it has no identifier. -/
def lacking (beat : Beat) : List Diagnostic :=
  if beat.id.isEmpty then [(Complaint.missingId beat.text).diagnostic beat.origin] else []

theorem diagnostics_addBeat (d : Draft) (o : Opened) (beat : Beat) :
    (d.addBeat o beat).diagnostics = d.diagnostics ++ lacking beat := by
  have read : ∀ e : Draft, ∀ b : Beat, (e.emit (.beatRead b)).diagnostics = e.diagnostics :=
    fun e b => diagnostics_emit_of_none e rfl
  unfold addBeat lacking
  dsimp only
  split
  · rw [diagnostics_complain, read]
    rfl
  · rw [read, List.append_nil]
    rfl

/-- What is complained of where the annotation is off. -/
def outside (d : Draft) (line : Text) (origin : Origin) (ways : Prose) : List Diagnostic :=
  match ways.shape with
  | some (.speech _) =>
    if d.cascade.active then [] else [(Complaint.speechOutside line).diagnostic origin]
  | _ => []

theorem diagnostics_takeShape (d : Draft) (line : Text) (origin : Origin) {ways : Prose}
    (unlabelled : d.cascade.active = true → ways.label = none) :
    (d.takeShape line origin ways).diagnostics =
      d.diagnostics ++ d.outside line origin ways ++
        (d.proseBeat? origin ways).toList.flatMap lacking := by
  unfold takeShape outside proseBeat?
  cases shape : ways.shape with
  | none => simp [readsProse, shape]
  | some found =>
      cases active : d.cascade.active with
      | false =>
          cases found with
          | speech speech => simp [readsProse, active, diagnostics_complain]
          | action action => simp [readsProse, active]
      | true =>
          cases opened : d.opened with
          | none => cases found <;> simp [readsProse, opened]
          | some o =>
              have reads : d.readsProse ways = true := by
                simp [readsProse, active, opened, shape, unlabelled active]
              have same : lacking (d.given origin found) = lacking (beatOf origin found) := rfl
              cases found <;> simp [reads, same, diagnostics_addBeat]

/-- What is complained of in a line of prose: content behind the colon of a clause, then speech or a
beat. -/
theorem diagnostics_prose (d : Draft) (line : Text) (origin : Origin) (ways : Prose) :
    (d.prose line origin ways).diagnostics =
      d.diagnostics ++
        (if d.cascade.active && ways.straying then
          [(Complaint.contentAfterClause line).diagnostic origin] else []) ++
        d.outside line origin ways ++ (d.proseBeat? origin ways).toList.flatMap lacking := by
  obtain ⟨events, complained⟩ : ∃ events,
      (if ways.straying && d.cascade.active then d.complain (.contentAfterClause line) origin
        else d) = { d with events } := by
    split
    · exact ⟨_, rfl⟩
    · exact ⟨d.events, rfl⟩
  have strays : ({ d with events } : Draft).diagnostics =
      d.diagnostics ++
        if d.cascade.active && ways.straying then
          [(Complaint.contentAfterClause line).diagnostic origin] else [] := by
    rw [← complained, Bool.and_comm]
    split
    · exact diagnostics_complain d _ origin
    · exact (List.append_nil _).symm
  unfold prose
  dsimp only
  rw [complained, ← strays]
  have unlabelled : (d.cascade.active = true → ways.label = none) →
      (({ d with events } : Draft).takeShape line origin ways).diagnostics =
        ({ d with events } : Draft).diagnostics ++ d.outside line origin ways ++
          (d.proseBeat? origin ways).toList.flatMap lacking :=
    diagnostics_takeShape { d with events } line origin
  cases active : d.cascade.active with
  | false => exact unlabelled (by simp [active])
  | true =>
      cases label : ways.label with
      | none => exact unlabelled fun _ => label
      | some text =>
          have noted : (({ d with events } : Draft).note text).diagnostics =
              ({ d with events } : Draft).diagnostics := rfl
          have quiet : d.outside line origin ways = [] := by
            unfold outside
            split <;> simp [active]
          simp [noted, quiet, proseBeat?, readsProse, label]

/-! ## Lines -/

/-- What a line reports: errors first, then warnings. -/
def errors (d : Draft) (line : SourceLine) : List Diagnostic :=
  if d.cascade.active && line.strays then
    [(Complaint.contentAfterClause line.body).diagnostic line.origin]
  else []

def warnings (d : Draft) (line : SourceLine) : List Diagnostic :=
  (if !d.cascade.active && line.speaks then
    [(Complaint.speechOutside line.body).diagnostic line.origin] else []) ++
    (d.beat? line).toList.flatMap lacking

theorem outside_eq_ite (d : Draft) {line : SourceLine} (origin : Origin) {ways : Prose}
    (prose : line.prose? = some ways) (told : ways = Prose.ofLine line.strays line.body) :
    d.outside line.body origin ways =
      if !d.cascade.active && line.speaks then
        [(Complaint.speechOutside line.body).diagnostic origin] else [] := by
  have shape : ways.shape = Shape.ofLine? line.body := by rw [told, Prose.ofLine]
  rw [outside, shape, Shape.ofLine?, SourceLine.speaks, prose]
  cases Speech.ofLine? line.body with
  | some speech => cases d.cascade.active <;> rfl
  | none => cases Action.ofLine? line.body <;> simp

theorem diagnostics_step (d : Draft) (line : SourceLine) :
    (d.step line).diagnostics = d.diagnostics ++ (d.errors line ++ d.warnings line) := by
  -- A line that is no prose reports nothing.
  have silent : line.prose? = none → d.errors line ++ d.warnings line = [] := by
    intro none_
    have straight : line.strays = false := by
      by_contra strays
      have prose := SourceLine.isSome_prose?_of_strays (eq_true_of_ne_false strays)
      rw [none_] at prose
      cases prose
    simp [errors, warnings, straight, SourceLine.speaks, beat?, none_]
  rw [step_eq]
  cases kind : line.kind with
  | blank | statement =>
      rw [silent (by rw [SourceLine.prose?, kind])]
      simp [take]
  | tags tokens =>
      rw [silent (by rw [SourceLine.prose?, kind]), List.append_nil]
      exact (diagnostics_emit_of_none _ rfl).trans (d.diagnostics_turned line)
  | content turn role =>
      cases role with
      | clause =>
          rw [silent (by rw [SourceLine.prose?, kind])]
          simp [play]
      | knot id =>
          rw [silent (by rw [SourceLine.prose?, kind])]
          simp [play, diagnostics_beginScene]
      | stitch id =>
          rw [silent (by rw [SourceLine.prose?, kind])]
          simp [play, diagnostics_beginBlock]
      | comment text =>
          rw [silent (by rw [SourceLine.prose?, kind]), List.append_nil]
          exact d.diagnostics_turned line
      | prose ways =>
          have some_ : line.prose? = some ways := by rw [SourceLine.prose?, kind]
          have told : ways = Prose.ofLine line.strays line.body := SourceLine.prose_eq kind
          have straying : ways.straying = line.strays := by rw [told, Prose.ofLine]
          have outside := (d.turned line).outside_eq_ite line.origin some_ told
          rw [active_turned] at outside
          simp only [play, diagnostics_prose, diagnostics_turned, active_turned, straying, errors,
            warnings, beat?, some_, Option.bind_some, List.append_assoc]
          exact congrArg _ (congrArg _ (congrArg (· ++ _) outside))

end Draft

/-! ## Scripts -/

namespace Site

def errors (s : Site) : List Diagnostic :=
  s.draft.errors s.line

def warnings (s : Site) : List Diagnostic :=
  s.draft.warnings s.line

end Site

theorem Draft.diagnostics_upTo (lines : List SourceLine) :
    (upTo lines).diagnostics = (sites lines).flatMap fun s => s.errors ++ s.warnings := by
  induction lines using List.reverseRecOn with
  | nil => rfl
  | append_singleton rest line ih =>
      have here : (Site.mk rest line).errors ++ (Site.mk rest line).warnings =
          (upTo rest).errors line ++ (upTo rest).warnings line := rfl
      rw [upTo_concat, diagnostics_step, sites_concat, List.flatMap_append, ← ih,
        List.flatMap_singleton, here]

end Beatsheet

/-
# Beatsheet.Proofs.Draft.Carry — what empty snippets pass on

A snippet that is dropped, since no beat has come into it, leaves its comments to the snippet that
replaces it. So what the next snippet starts with has been collected at one boundary after the
other, each of which hands over what waits there (`Draft.handedBy`), for as long as no beat and no
header has come between. `Draft.Carries` says how much that is, and each line adds what it hands
over (`Carries.step`).
-/
import Beatsheet.Proofs.Draft.Cut
import Beatsheet.Proofs.Draft.Frame
import Beatsheet.Proofs.Draft.Idle
import Beatsheet.Proofs.Draft.Pending

set_option autoImplicit false

namespace Beatsheet

/-- Whether the line is a bare clause. -/
def SourceLine.isClause (line : SourceLine) : Bool :=
  match line.kind with
  | .content _ .clause => true
  | _ => false

/-- A bare clause turns the flow. -/
theorem SourceLine.isSome_turn?_of_isClause {line : SourceLine} (clause : line.isClause = true) :
    line.turn?.isSome = true := by
  unfold isClause at clause
  split at clause
  · exact isSome_turn?_of_clause ‹_›
  · cases clause

/-- Whether the role is that of a header. -/
def Role.isHeader : Role → Bool
  | .knot _ | .stitch _ => true
  | _ => false

namespace Draft

/-- What a turn hands over to the snippet that it starts. A level of braces keeps what stands before
it, and speech where the annotation is on leaves it for its own beat. -/
def handedBy (d : Draft) : Turn → List Text
  | .opening _ => []
  | .closing => d.pending ++ if d.endsGroup then [mergeMark] else []
  | .speech => if d.cascade.active then [] else d.pending
  | .choice text => d.pending ++ [choiceMark text]
  | .gather => d.pending ++ if d.merging then [mergeMark] else []
  | .other => d.pending

/-- What a line hands over. A bare clause is a boundary once more when the flow is turned. -/
def handed (d : Draft) (line : SourceLine) : List Text :=
  line.turn?.elim [] (d.heard line).handedBy ++
    if line.isClause then (d.turned line).pending else []

/-- A snippet is open that carries these comments and, if it is `fresh`, has no beat. -/
def Carries (d : Draft) (comments : List Text) (fresh : Bool) : Prop :=
  ∃ o, d.opened = some o ∧ o.carried = comments ∧ o.snippet.beats.isEmpty = fresh

namespace Carries

variable {d e : Draft} {comments : List Text} {fresh : Bool}

theorem congr (carries : d.Carries comments fresh) (opened : e.opened = d.opened) :
    e.Carries comments fresh := by
  rw [Carries, opened]
  exact carries

/-- A boundary adds what waits. -/
theorem boundary (carries : d.Carries comments fresh) (same : e.opened = d.opened) :
    e.boundary.Carries (comments ++ e.pending) true := by
  obtain ⟨o, opened, rfl, -⟩ := carries
  exact ⟨_, opened_boundary (same.trans opened), rfl, rfl⟩

theorem countGroup (carries : d.Carries comments fresh) : d.countGroup.Carries comments fresh := by
  obtain ⟨o, opened, carried, empty⟩ := carries
  have counted := d.opened_countGroup
  rw [opened, Option.map_some] at counted
  exact ⟨_, counted, carried, empty⟩

theorem turn (carries : d.Carries comments fresh) (turn : Turn) :
    (d.turn turn).Carries (comments ++ d.handedBy turn) true := by
  cases turn with
  | opening group =>
      simp only [Draft.turn, openLevel, handedBy]
      split <;> exact carries.boundary rfl
  | closing =>
      have ends : d.groupDepth.any (d.levels.pop.depth < ·) = d.endsGroup := rfl
      simp only [Draft.turn, closeLevel, handedBy, ends]
      split
      · refine Carries.countGroup ?_
        exact carries.boundary rfl
      · rw [List.append_nil]
        exact carries.boundary rfl
  | speech =>
      simp only [Draft.turn, handedBy]
      split
      · have emptied : Carries { d with pending := [] } comments fresh := carries.congr rfl
        exact (emptied.boundary rfl).congr rfl
      · exact carries.boundary rfl
  | choice text => exact carries.boundary rfl
  | gather =>
      simp only [Draft.turn, handedBy]
      split
      · exact carries.boundary rfl
      · rw [List.append_nil]
        exact carries.boundary rfl
  | other => exact carries.boundary rfl

theorem turned (carries : d.Carries comments fresh) (line : SourceLine) :
    (d.turned line).Carries (comments ++ line.turn?.elim [] (d.heard line).handedBy)
      (fresh || line.turn?.isSome) := by
  have heard : (d.heard line).Carries comments fresh := carries.congr (d.alike_heard line).opened
  unfold Draft.turned
  cases line.turn? with
  | none => simpa using heard
  | some t => simpa using heard.turn t

theorem beginScene (d : Draft) (id : Text) (origin : Origin) :
    (d.beginScene id origin).Carries [] true :=
  ⟨_, rfl, rfl, rfl⟩

theorem beginBlock (carries : d.Carries comments fresh) (id : Text) (origin : Origin) :
    (d.beginBlock id origin).Carries [] true := by
  obtain ⟨o, opened, -⟩ := carries
  simp only [Draft.beginBlock, emit, opened]
  exact ⟨_, rfl, rfl, rfl⟩

theorem addBeat (d : Draft) (o : Opened) (beat : Beat) : (d.addBeat o beat).Carries [] false := by
  obtain ⟨added, -, after⟩ := d.opened_addBeat o beat
  exact ⟨_, after, by simp [Opened.carried], by simp⟩

/-- **A line adds what it hands over**, unless it is a header or a beat: behind these nothing is
carried. -/
theorem step (carries : d.Carries comments fresh) (line : SourceLine) :
    (d.step line).Carries
      (if d.readsBeat line || line.isHeader then [] else comments ++ d.handed line)
      (if d.readsBeat line then false else line.isHeader || fresh || line.turn?.isSome) := by
  have turned := carries.turned line
  -- A line that is no clause hands over what its turn does.
  have handed : line.isClause = false →
      d.handed line = line.turn?.elim [] (d.heard line).handedBy := by
    intro plain
    rw [Draft.handed, plain]
    simp
  have header : ∀ {turn : Option Turn} {role : Role}, line.kind = .content turn role →
      line.isHeader = role.isHeader := by
    intro turn role kind
    rw [SourceLine.isHeader, SourceLine.knot?, SourceLine.stitch?, kind]
    cases role <;> rfl
  have reads : line.prose? = none → d.readsBeat line = false := fun none_ => by
    rw [readsBeat, none_, Option.any_none]
  rw [step_eq]
  cases kind : line.kind with
  | blank | statement | tags tokens =>
      have quiet : line.isHeader = false := by
        rw [SourceLine.isHeader, SourceLine.knot?, SourceLine.stitch?, kind]
        rfl
      rw [reads (by rw [SourceLine.prose?, kind]), quiet,
        handed (by rw [SourceLine.isClause, kind])]
      exact turned.congr rfl
  | content turn role =>
      rw [header kind]
      cases role with
      | clause =>
          have isClause : line.isClause = true := by rw [SourceLine.isClause, kind]
          rw [reads (by rw [SourceLine.prose?, kind]), SourceLine.isSome_turn?_of_clause kind,
            Draft.handed, isClause, if_pos rfl, ← List.append_assoc, Bool.or_true]
          exact turned.boundary rfl
      | knot id =>
          rw [reads (by rw [SourceLine.prose?, kind])]
          exact beginScene _ id line.origin
      | stitch id =>
          rw [reads (by rw [SourceLine.prose?, kind])]
          exact turned.beginBlock id line.origin
      | comment text =>
          rw [reads (by rw [SourceLine.prose?, kind]), handed (by rw [SourceLine.isClause, kind])]
          exact turned.congr rfl
      | prose ways =>
          have some_ : line.prose? = some ways := by rw [SourceLine.prose?, kind]
          have same : d.readsBeat line = (d.turned line).readsProse ways := by
            rw [← readsBeat_turned, readsBeat, some_, Option.any_some]
          have prose :=
            (d.turned line).readsProse_prose (Reading.ofLine line.text).body line.origin ways
          rw [same, handed (by rw [SourceLine.isClause, kind])]
          simp only [play]
          generalize (d.turned line).prose _ line.origin ways = after at prose
          cases prose with
          | beat e o beat alike opened stands yes =>
              rw [yes]
              exact addBeat e o beat
          | rest _ alike no =>
              rw [no]
              exact turned.congr alike.opened

end Carries

end Draft

end Beatsheet

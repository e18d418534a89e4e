/-
# Beatsheet.Proofs.Extract.Boundary — boundaries part snippets

Two beats of one block are in the same snippet just if no line behind the first one, up to and
including that of the second, is a boundary (`extractLines_sameSnippet`). Whether a line is a
boundary can be told from the line alone (`SourceLine.isBoundary`): its braces do not balance, or it
breaks the flow. The invariant is that of `Draft.Since`.
-/
import Beatsheet.Proofs.Draft.Seat
import Beatsheet.Proofs.Extract.Names
import Beatsheet.Proofs.Extract.Placement

set_option autoImplicit false

namespace Beatsheet

/-! ## Boundaries -/

/-- Whether the line, without the comment at its end, is content and either holds braces that do not
balance or breaks the flow. -/
def SourceLine.isBoundary (line : SourceLine) : Bool :=
  let body := (Line.splitComment (Text.trim line.text)).1
  !body.isEmpty && (Tag.line? body).isNone && !Line.isStatement body &&
    ((Brace.ofLine? body).isSome || Line.breaksFlow body)

/-- The boundaries are the lines that turn the flow. -/
theorem SourceLine.isBoundary_eq (line : SourceLine) : line.isBoundary = line.turn?.isSome := by
  have kind : line.kind = Kind.ofLine (Line.splitComment (Text.trim line.text)).1 := rfl
  simp only [isBoundary, turn?, kind, Kind.ofLine, ← Turn.isSome_ofLine?]
  generalize (Line.splitComment (Text.trim line.text)).1 = body
  cases body.isEmpty with
  | true => rfl
  | false =>
      cases Tag.line? body with
      | some tokens => rfl
      | none => cases Line.isStatement body <;> simp

/-! ## From one site to another -/

namespace Site

/-- The lines behind `s`, up to and including that of `t`. -/
def through (s t : Site) : List SourceLine :=
  (t.before ++ [t.line]).drop (s.before.length + 1)

/-- The seat of a beat on this line. -/
def seat? (s : Site) : Option Seat :=
  (s.draft.turned s.line).seat?

theorem through_eq {s t : Site} {more : List SourceLine}
    (between : s.before ++ [s.line] ++ more = t.before) : s.through t = more ++ [t.line] := by
  rw [through, ← between, List.append_assoc _ more]
  exact List.drop_left' (by simp)

/-- If a beat's line stands before another site, and the seat there is in the beat's block, then it
is the seat of the beat just if no boundary comes between them. -/
theorem snippet_eq_iff {s t : Site} {p q : Seat} (beat : s.isBeat = true)
    (before : s.before ++ [s.line] <+: t.before) (seat : s.seat? = some p)
    (seat' : t.seat? = some q) (block : p.SameBlock q) :
    p.snippet = q.snippet ↔ ∀ line ∈ s.through t, line.isBoundary = false := by
  obtain ⟨more, between⟩ := before
  have since := Draft.since_upTo beat seat more
  rw [between] at since
  obtain ⟨o, opened, -, same⟩ := since.turned t.line
  have here : o.seat (t.draft.turned t.line).scenes.length = q := by
    rw [seat?, Draft.seat?, draft, opened] at seat'
    exact Option.some.inj seat'
  rw [draft] at here
  rw [here] at same
  rw [same block, through_eq between]
  simp only [SourceLine.isBoundary_eq, List.mem_append, List.mem_singleton, Bool.or_eq_false_iff,
    List.any_eq_false, Bool.not_eq_true]
  constructor
  · rintro ⟨quiet, last⟩ line (old | rfl)
    · exact quiet line old
    · exact last
  · intro quiet
    exact ⟨fun line old => quiet line (.inl old), quiet t.line (.inr rfl)⟩

end Site

/-! ## The seats of a script -/

/-- The beats of a script take the seats of their lines, in the order of these. -/
theorem Draft.seated_upTo (lines : List SourceLine) :
    (upTo lines).seated.map (fun b => (some b.1, b.2.origin)) =
      ((sites lines).filter Site.isBeat).map fun s => (s.seat?, s.line.origin) := by
  induction lines using List.reverseRecOn with
  | nil => rfl
  | append_singleton rest line ih =>
      rw [upTo_concat, seated_step, sites_concat, List.filter_append, List.map_append, ← ih]
      have here : Site.isBeat ⟨rest, line⟩ = (upTo rest).readsBeat line := rfl
      cases reads : (upTo rest).readsBeat line with
      | false => simp [here, reads]
      | true =>
          simp [here, reads]
          rfl

/-- **Two beats of one block are in the same snippet just if no boundary line comes between them**,
counting the line of the second beat and not that of the first. -/
theorem extractLines_sameSnippet {σ : Type} (source : IdSource σ) (state : σ) (options : Options)
    (previous : Option (List (Scene Text))) (lines : List SourceLine) :
    let e := (extractLines source state options previous lines).extraction
    let beats := (sites lines).filter Site.isBeat
    e.seated.map Prod.snd = e.beats ∧
      ∀ (m n : Nat) (p q : Seat) (b c : Beat), m < n → e.seated[m]? = some (p, b) →
        e.seated[n]? = some (q, c) → p.SameBlock q →
        ∃ s t, beats[m]? = some s ∧ beats[n]? = some t ∧
          b.origin = s.line.origin ∧ c.origin = t.line.origin ∧
          (p.snippet = q.snippet ↔ ∀ line ∈ s.through t, line.isBoundary = false) := by
  intro e beats
  obtain ⟨name, named⟩ := extractLines_scenes source state options previous lines
  have seated : e.seated.map (fun b => (some b.1, b.2.origin)) =
      beats.map fun s => (s.seat?, s.line.origin) := by
    have closed := (Draft.upTo lines).seated_close
    rw [Draft.seated, Draft.opened_close, Option.elim_none, List.append_nil] at closed
    rw [Extraction.seated, named, seated_map, Draft.ofLines_eq, closed, Draft.seated_upTo]
  have found : ∀ {n : Nat} {p : Seat} {b : Beat}, e.seated[n]? = some (p, b) →
      ∃ s, beats[n]? = some s ∧ s.seat? = some p ∧ b.origin = s.line.origin := by
    intro n p b taken
    have same := congrArg (·[n]?) seated
    simp only [List.getElem?_map, taken, Option.map_some] at same
    obtain ⟨s, site, eq⟩ := Option.map_eq_some_iff.mp same.symm
    obtain ⟨seat, origin⟩ := Prod.mk.inj eq
    exact ⟨s, site, seat, origin.symm⟩
  refine ⟨map_snd_seated e.scenes, ?_⟩
  intro m n p q b c order first second block
  obtain ⟨s, sSite, sSeat, sOrigin⟩ := found first
  obtain ⟨t, tSite, tSeat, tOrigin⟩ := found second
  refine ⟨s, t, sSite, tSite, sOrigin, tOrigin, ?_⟩
  have isBeat : s.isBeat = true := (List.mem_filter.mp (List.mem_of_getElem? sSite)).2
  have before : s.before ++ [s.line] <+: t.before := by
    have ordered : beats.Pairwise fun s t => s.before ++ [s.line] <+: t.before :=
      (pairwise_sites lines).filter _
    obtain ⟨mBound, rfl⟩ := List.getElem?_eq_some_iff.mp sSite
    obtain ⟨nBound, rfl⟩ := List.getElem?_eq_some_iff.mp tSite
    exact List.pairwise_iff_getElem.mp ordered m n mBound nBound order
  exact Site.snippet_eq_iff isBeat before sSeat tSeat block

/-! ## Poles -/

/-- A choice parts the first beat from the second; the second and the third stay together, for the
comment and the blank line between them are no boundaries. -/
def parted : List SourceLine :=
  SourceLine.ofSource "a.ink".toList
    "#dink\n== K\nANNA: Hi. #id:a\n* Go on.\nANNA: So. #id:b\n// aside\n\nBERT: Yo. #id:c".toList

theorem extractLines_sameSnippet_of_parted :
    let e := (extractLines IdSource.numbered 0 {} none parted).extraction
    let beats := (sites parted).filter Site.isBeat
    e.seated.map Prod.fst = [⟨0, 0, 0⟩, ⟨0, 0, 1⟩, ⟨0, 0, 1⟩] ∧
      (∃ s t, beats[0]? = some s ∧ beats[1]? = some t ∧
        ¬∀ line ∈ s.through t, line.isBoundary = false) ∧
      ∃ s t, beats[1]? = some s ∧ beats[2]? = some t ∧
        ∀ line ∈ s.through t, line.isBoundary = false := by
  intro e beats
  have seats : e.seated.map Prod.fst = [⟨0, 0, 0⟩, ⟨0, 0, 1⟩, ⟨0, 0, 1⟩] := by decide +kernel
  have taken : ∀ {n : Nat} {p : Seat},
      ([⟨0, 0, 0⟩, ⟨0, 0, 1⟩, ⟨0, 0, 1⟩] : List Seat)[n]? = some p →
      ∃ b, e.seated[n]? = some (p, b) := by
    intro n p here
    rw [← seats, List.getElem?_map, Option.map_eq_some_iff] at here
    obtain ⟨⟨_, b⟩, found, rfl⟩ := here
    exact ⟨b, found⟩
  obtain ⟨a, first⟩ := taken (n := 0) rfl
  obtain ⟨b, second⟩ := taken (n := 1) rfl
  obtain ⟨c, third⟩ := taken (n := 2) rfl
  have same := (extractLines_sameSnippet IdSource.numbered 0 {} none parted).2
  refine ⟨seats, ?_, ?_⟩
  · obtain ⟨s, t, site, site', -, -, apart⟩ :=
      same 0 1 _ _ a b (by decide) first second ⟨rfl, rfl⟩
    exact ⟨s, t, site, site', fun quiet => absurd (apart.mpr quiet) (by decide)⟩
  · obtain ⟨s, t, site, site', -, -, together⟩ :=
      same 1 2 _ _ b c (by decide) second third ⟨rfl, rfl⟩
    exact ⟨s, t, site, site', together.mp rfl⟩

end Beatsheet

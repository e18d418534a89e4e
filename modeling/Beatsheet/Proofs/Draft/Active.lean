/-
# Beatsheet.Proofs.Draft.Active — when the annotation is on

Whether the annotation is on can be told from the lines so far (`active_upTo`): one of them is a tag
line with the switch, and behind it there is no knot header or, if there is, no content before it.
In the second case the line has switched on the whole document.

The cascade only sees what a line is (`Cascade.read`). What it recalls of the lines that it has read
is therefore said of the cascade alone, and kept line by line (`Cascade.Recalls.read`).
-/
import Beatsheet.Proofs.Draft.Site
import Beatsheet.Proofs.Draft.Outline

set_option autoImplicit false

namespace Beatsheet

namespace SourceLine

/-- Whether the line is content: neither blank nor a tag line nor a statement. -/
def isContent (line : SourceLine) : Bool :=
  match line.kind with
  | .content _ _ => true
  | _ => false

/-- Whether the line is a tag line with the switch among its tokens. -/
def switches (line : SourceLine) : Bool :=
  match line.kind with
  | .tags tokens => tokens.contains Cascade.switch
  | _ => false

end SourceLine

/-! ## Switched on by a line -/

/-- A tag line switches the annotation on, and no knot header stands behind it. -/
def SwitchedInScene (lines : List SourceLine) : Prop :=
  ∃ before line behind, lines = before ++ line :: behind ∧ line.switches = true ∧
    ∀ other ∈ behind, other.knot? = none

/-- A tag line switches the annotation on, and no content stands before it. -/
def SwitchedInDocument (lines : List SourceLine) : Prop :=
  ∃ before line behind, lines = before ++ line :: behind ∧ line.switches = true ∧
    ∀ other ∈ before, other.isContent = false

/-- A tag line switches the annotation on for what stands behind these lines: no knot header stands
behind it, or no content before it. -/
def SwitchedOn (lines : List SourceLine) : Prop :=
  ∃ before line behind, lines = before ++ line :: behind ∧ line.switches = true ∧
    ((∀ other ∈ behind, other.knot? = none) ∨ ∀ other ∈ before, other.isContent = false)

theorem switchedOn_iff (lines : List SourceLine) :
    SwitchedOn lines ↔ SwitchedInScene lines ∨ SwitchedInDocument lines := by
  constructor
  · rintro ⟨before, line, behind, split, on, here | first⟩
    · exact .inl ⟨before, line, behind, split, on, here⟩
    · exact .inr ⟨before, line, behind, split, on, first⟩
  · rintro (⟨before, line, behind, split, on, here⟩ | ⟨before, line, behind, split, on, first⟩)
    · exact ⟨before, line, behind, split, on, .inl here⟩
    · exact ⟨before, line, behind, split, on, .inr first⟩

/-- To split a list with one more item is to split at that item, or to split the list before it. -/
theorem exists_split_concat {α : Type} {P : List α → α → List α → Prop} (as : List α) (a : α) :
    (∃ before x behind, as ++ [a] = before ++ x :: behind ∧ P before x behind) ↔
      P as a [] ∨ ∃ before x behind, as = before ++ x :: behind ∧ P before x (behind ++ [a]) := by
  constructor
  · rintro ⟨before, x, behind, split, holds⟩
    rcases List.eq_nil_or_concat behind with rfl | ⟨rest, last, rfl⟩
    · obtain ⟨rfl, same⟩ := List.append_inj' split rfl
      obtain rfl := List.singleton_inj.mp same
      exact .inl holds
    · rw [List.concat_eq_append, ← List.cons_append, ← List.append_assoc] at split
      obtain ⟨rfl, same⟩ := List.append_inj' split rfl
      obtain rfl := List.singleton_inj.mp same
      exact .inr ⟨before, x, rest, rfl, by rwa [List.concat_eq_append] at holds⟩
  · rintro (holds | ⟨before, x, behind, rfl, holds⟩)
    · exact ⟨as, a, [], rfl, holds⟩
    · exact ⟨before, x, behind ++ [a], by simp, holds⟩

theorem switchedInScene_concat (lines : List SourceLine) (line : SourceLine) :
    SwitchedInScene (lines ++ [line]) ↔
      line.switches = true ∨ (SwitchedInScene lines ∧ line.knot? = none) := by
  rw [SwitchedInScene, exists_split_concat]
  refine or_congr (by simp) ?_
  constructor
  · rintro ⟨before, x, behind, split, on, here⟩
    simp only [List.mem_append, List.mem_singleton] at here
    exact ⟨⟨before, x, behind, split, on, fun other old => here other (.inl old)⟩,
      here line (.inr rfl)⟩
  · rintro ⟨⟨before, x, behind, split, on, here⟩, knot⟩
    refine ⟨before, x, behind, split, on, fun other member => ?_⟩
    rcases List.mem_append.mp member with old | new
    · exact here other old
    · exact List.mem_singleton.mp new ▸ knot

theorem switchedInDocument_concat (lines : List SourceLine) (line : SourceLine) :
    SwitchedInDocument (lines ++ [line]) ↔
      SwitchedInDocument lines ∨
        (line.switches = true ∧ ∀ other ∈ lines, other.isContent = false) := by
  rw [SwitchedInDocument, exists_split_concat, or_comm]
  rfl

/-! ## The cascade over lines -/

namespace Cascade

/-- What a line does to the cascade. -/
def read (c : Cascade) (line : SourceLine) : Cascade :=
  match line.kind with
  | .blank | .statement => c
  | .tags tokens => c.route tokens
  | .content _ (.knot _) => c.markContent.beginScene
  | .content _ (.stitch _) => c.markContent.beginBlock
  | .content _ _ => c.markContent

/-- What a cascade recalls of the lines that it has read. -/
structure Recalls (c : Cascade) (lines : List SourceLine) : Prop where
  seen : c.documentSeen = true ↔ ∃ line ∈ lines, line.isContent = true
  document : c.documentActive = true ↔ SwitchedInDocument lines
  active : c.active = true ↔ SwitchedOn lines

theorem recalls_nil : Recalls {} [] := by
  refine ⟨by simp, ?_, ?_⟩
  all_goals simp [SwitchedInDocument, SwitchedOn]

/-- A tag line switches the annotation on where it stands, and for the document before content. -/
theorem active_route (c : Cascade) (tokens : List Text) :
    (c.route tokens).documentSeen = c.documentSeen ∧
      (c.route tokens).documentActive =
        (c.documentActive || (tokens.contains switch && !c.documentSeen)) ∧
      (c.route tokens).active = (c.active || tokens.contains switch) := by
  unfold route scope?
  cases c.documentSeen <;> cases c.sceneSeen <;> cases c.blockSeen <;> simp [extend]

variable {c : Cascade} {lines : List SourceLine}

theorem Recalls.read (recalls : c.Recalls lines) (line : SourceLine) :
    (c.read line).Recalls (lines ++ [line]) := by
  have active := recalls.active
  rw [switchedOn_iff] at active
  -- What the lines with this one say, if it neither switches nor is a knot header.
  have kept : line.switches = false → line.knot? = none →
      (SwitchedInDocument (lines ++ [line]) ↔ SwitchedInDocument lines) ∧
        (SwitchedOn (lines ++ [line]) ↔ SwitchedOn lines) := by
    intro off knot
    simp [switchedOn_iff, switchedInScene_concat, switchedInDocument_concat, off, knot]
  cases kind : line.kind with
  | blank | statement =>
      have content : line.isContent = false := by rw [SourceLine.isContent, kind]
      obtain ⟨document, on⟩ := kept (by rw [SourceLine.switches, kind])
        (by rw [SourceLine.knot?, kind])
      simp only [Cascade.read, kind]
      exact ⟨by simp [recalls.seen, content], recalls.document.trans document.symm,
        recalls.active.trans on.symm⟩
  | tags tokens =>
      have content : line.isContent = false := by rw [SourceLine.isContent, kind]
      have switches : line.switches = tokens.contains switch := by
        rw [SourceLine.switches, kind]
      have knot : line.knot? = none := by rw [SourceLine.knot?, kind]
      obtain ⟨seen, document, on⟩ := c.active_route tokens
      have unseen : c.documentSeen = false ↔ ∀ other ∈ lines, other.isContent = false := by
        simpa using not_congr recalls.seen
      simp only [Cascade.read, kind]
      refine ⟨?_, ?_, ?_⟩
      · rw [seen, recalls.seen]
        simp [content]
      · rw [document, switchedInDocument_concat, switches, Bool.or_eq_true, recalls.document,
          Bool.and_eq_true, Bool.not_eq_true', unseen]
      · rw [on, switchedOn_iff, switchedInScene_concat, switchedInDocument_concat, switches, knot,
          Bool.or_eq_true, active]
        constructor
        · rintro ((here | first) | switched)
          · exact .inl (.inr ⟨here, rfl⟩)
          · exact .inr (.inl first)
          · exact .inl (.inl switched)
        · rintro ((switched | ⟨here, -⟩) | first | ⟨switched, -⟩)
          · exact .inr switched
          · exact .inl (.inl here)
          · exact .inl (.inr first)
          · exact .inr switched
  | content turn role =>
      have content : line.isContent = true := by rw [SourceLine.isContent, kind]
      have off : line.switches = false := by rw [SourceLine.switches, kind]
      have seen : ∃ other ∈ lines ++ [line], other.isContent = true := ⟨line, by simp, content⟩
      cases role with
      | knot id =>
          have document : SwitchedInDocument (lines ++ [line]) ↔ SwitchedInDocument lines := by
            simp [switchedInDocument_concat, off]
          -- Only the document's switch outlasts a knot header.
          have on : SwitchedOn (lines ++ [line]) ↔ SwitchedInDocument lines := by
            have knot : line.knot? ≠ none := by simp [SourceLine.knot?, kind]
            simp [switchedOn_iff, switchedInScene_concat, document, off, knot]
          simp only [Cascade.read, kind, markContent, beginScene]
          exact ⟨by simpa using seen, recalls.document.trans document.symm,
            recalls.document.trans on.symm⟩
      | clause | stitch id | comment text | prose ways =>
          obtain ⟨document, on⟩ := kept off (by rw [SourceLine.knot?, kind])
          simp only [Cascade.read, kind, markContent, beginBlock]
          exact ⟨by simpa using seen, recalls.document.trans document.symm,
            recalls.active.trans on.symm⟩

end Cascade

/-! ## The cascade of a draft -/

namespace Draft

@[simp] theorem cascade_addBeat (d : Draft) (o : Opened) (beat : Beat) :
    (d.addBeat o beat).cascade = d.cascade := by
  unfold addBeat
  dsimp only
  split <;> rfl

@[simp] theorem cascade_passBy (d : Draft) (origin : Origin) (tagged : Option Tagged) :
    (d.passBy origin tagged).cascade = d.cascade := by
  unfold passBy
  cases tagged <;> rfl

theorem cascade_beginScene (d : Draft) (id : Text) (origin : Origin) :
    (d.beginScene id origin).cascade = d.cascade.beginScene := rfl

theorem cascade_beginBlock (d : Draft) (id : Text) (origin : Origin) :
    (d.beginBlock id origin).cascade = d.cascade.beginBlock := by
  unfold beginBlock
  dsimp only
  split <;> rfl

theorem cascade_takeShape (d : Draft) (line : Text) (origin : Origin) (ways : Prose) :
    (d.takeShape line origin ways).cascade = d.cascade := by
  unfold takeShape
  split
  · exact cascade_passBy d origin ways.tagged
  · split
    · split <;> simp
    · split
      · exact cascade_passBy _ origin ways.tagged
      · exact cascade_passBy d origin ways.tagged

theorem cascade_prose (d : Draft) (line : Text) (origin : Origin) (ways : Prose) :
    (d.prose line origin ways).cascade = d.cascade := by
  obtain ⟨events, ⟨label, -, -, noted⟩ | ⟨-, shaped⟩⟩ := d.prose_cases line origin ways
  · rw [noted]
    rfl
  · rw [shaped, cascade_takeShape]

theorem cascade_noted (d : Draft) (line : SourceLine) :
    ((Reading.ofLine line.text).comment.elim d d.note).cascade = d.cascade := by
  cases (Reading.ofLine line.text).comment <;> rfl

/-- **What a line does to the cascade of a draft** can be told from what the line is. -/
theorem cascade_step (d : Draft) (line : SourceLine) :
    (d.step line).cascade = d.cascade.read line := by
  have kind : (Reading.ofLine line.text).kind = line.kind := rfl
  rw [step, kind, ← d.cascade_noted line, Cascade.read]
  generalize (Reading.ofLine line.text).comment.elim d d.note = e
  cases line.kind with
  | blank | statement => rfl
  | tags tokens => rfl
  | content turn role =>
      have turned : ∀ e : Draft, (turn.elim e e.turn).cascade = e.cascade := by
        intro e
        cases turn <;> simp
      cases role with
      | clause => simp [take, play, turned]
      | knot id => simp [take, play, cascade_beginScene, turned]
      | stitch id => simp [take, play, cascade_beginBlock, turned]
      | comment text => simp [take, play, note, turned]
      | prose ways => simp [take, play, cascade_prose, turned]

theorem recalls_upTo (lines : List SourceLine) : (upTo lines).cascade.Recalls lines := by
  induction lines using List.reverseRecOn with
  | nil => exact Cascade.recalls_nil
  | append_singleton rest line ih =>
      rw [upTo_concat, cascade_step]
      exact ih.read line

/-- **The annotation is on behind some lines just if one of them has switched it on.** -/
theorem active_upTo (lines : List SourceLine) :
    (upTo lines).cascade.active = true ↔ SwitchedOn lines :=
  (recalls_upTo lines).active

end Draft

end Beatsheet

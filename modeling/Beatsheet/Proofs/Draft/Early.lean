/-
# Beatsheet.Proofs.Draft.Early — content that comes early

Content closes the scopes of tags, and sooner or later content comes. So it makes no difference if
the scopes are closed before the lines that lead to it, unless one of these has tags that an open
scope would have kept (`Cascade.misses`). What the two runs end with is then the same but for
comments and names (`Draft.EndsAlike`, `foldl_marked`).
-/
import Beatsheet.Proofs.Draft.Active
import Beatsheet.Proofs.Draft.Silent

set_option autoImplicit false

namespace Beatsheet

namespace Draft

variable {d e f : Draft} {line : SourceLine} {lines : List SourceLine}

/-! ## Ends -/

/-- What is put away in the end is the same, but for comments and names, and so is what has been
recorded. -/
structure EndsAlike (d e : Draft) : Prop where
  scenes : e.close.scenes.map (Scene.silent ()) = d.close.scenes.map (Scene.silent ())
  taggedLines : e.taggedLines = d.taggedLines
  diagnostics : e.diagnostics = d.diagnostics

theorem EndsAlike.trans (first : d.EndsAlike e) (second : e.EndsAlike f) : d.EndsAlike f :=
  ⟨second.scenes.trans first.scenes, second.taggedLines.trans first.taggedLines,
    second.diagnostics.trans first.diagnostics⟩

theorem Matches.endsAlike (same : d.Matches e) : d.EndsAlike e :=
  ⟨same.close.scenes, same.taggedLines, same.diagnostics⟩

end Draft

/-! ## Scopes that are closed early -/

namespace Cascade

/-- Whether it makes a difference to the tokens of a tag line that a scope is still open. -/
def heeds (c : Cascade) (tokens : List Text) : Bool :=
  match c.scope? with
  | none => false
  | some scope =>
    !(kept tokens).isEmpty ||
      (scope == .document && tokens.contains switch && !c.documentActive)

/-- Whether the lines, before any content, have tags that a scope would take. -/
def misses (c : Cascade) : List SourceLine → Bool
  | [] => false
  | line :: rest =>
    match line.kind with
    | .content _ _ => false
    | .tags tokens => c.heeds tokens || (c.read line).misses rest
    | _ => (c.read line).misses rest

/-- Tokens that make no difference are dropped whether the scopes are open or not. -/
theorem route_markContent (c : Cascade) {tokens : List Text} (unheeded : c.heeds tokens = false) :
    c.markContent.route tokens = (c.route tokens).markContent := by
  let on := tokens.contains switch
  have closed : c.markContent.scope? = none := rfl
  have marked : c.markContent.route tokens = { c with active := c.active || on }.markContent := by
    simp only [route, closed, on]
    simp [markContent]
  rw [marked]
  cases takes : c.scope? with
  | none => simp [route, takes, on]
  | some scope =>
      simp only [heeds, takes, Bool.or_eq_false_iff, Bool.not_eq_false', List.isEmpty_iff]
        at unheeded
      obtain ⟨dropped, idle⟩ := unheeded
      have document :
          (c.documentActive || (on && some scope == some .document)) = c.documentActive := by
        cases scope with
        | document => cases h : c.documentActive <;> simp_all [on]
        | scene | block => simp
      have routed : c.route tokens = { c with active := c.active || on } := by
        unfold route
        dsimp only
        rw [takes, dropped, document]
        cases scope <;> simp [extend, on]
      rw [routed]

end Cascade

namespace Draft

variable {d e f : Draft} {line : SourceLine} {lines : List SourceLine}

/-- The draft with all scopes of tags closed. -/
def marked (d : Draft) : Draft :=
  { d with cascade := d.cascade.markContent }

@[simp] theorem cascade_marked (d : Draft) : d.marked.cascade = d.cascade.markContent := rfl

theorem Within.marked (within : d.Within) : d.marked.Within :=
  within.congr rfl rfl

/-- A comment at the end of the line can be noted before or afterwards. -/
theorem step_marked_eq (d : Draft) (line : SourceLine) :
    d.marked.step line =
      (((Reading.ofLine line.text).comment.elim d d.note).marked).take
        (Reading.ofLine line.text).body line.origin line.kind := by
  unfold step
  dsimp only
  cases (Reading.ofLine line.text).comment <;> rfl

/-- Content closes the scopes itself. -/
theorem step_marked (content : line.isContent = true) : d.marked.step line = d.step line := by
  rw [step_marked_eq, step]
  unfold SourceLine.isContent at content
  split at content
  · rename_i turn role kind
    have kind' : (Reading.ofLine line.text).kind = .content turn role := kind
    rw [kind, kind']
    rfl
  · cases content

theorem matches_marked_step (content : line.isContent = false)
    (unheeded : ∀ tokens, line.kind = .tags tokens → d.cascade.heeds tokens = false) :
    (d.step line).marked.Matches (d.marked.step line) := by
  have heard := d.cascade_noted line
  have kind : (Reading.ofLine line.text).kind = line.kind := rfl
  rw [step_marked_eq, step, kind]
  generalize (Reading.ofLine line.text).comment.elim d d.note = f at heard
  unfold SourceLine.isContent at content
  cases is : line.kind with
  | blank | statement => exact .refl _
  | tags tokens =>
      have cascade : f.marked.cascade.route tokens = (f.cascade.route tokens).markContent := by
        rw [cascade_marked, heard]
        exact d.cascade.route_markContent (unheeded tokens is)
      have routed : ({ f with cascade := f.cascade.route tokens } : Draft).marked.Matches
          { f.marked with cascade := f.marked.cascade.route tokens } :=
        { Matches.refl f with cascade }
      have quiet (line : Text) : (Event.tagsRouted f.marked.cascade.scope? line).diagnostic? =
          (Event.tagsRouted f.cascade.scope? line).diagnostic? := rfl
      exact routed.emit (quiet _)
  | content turn role =>
      rw [is] at content
      cases content

/-- **Content may close the scopes early** if no tags are missed. -/
theorem foldl_marked (within : d.Within) (unmissed : d.cascade.misses lines = false) :
    (lines.foldl step d).EndsAlike (lines.foldl step d.marked) := by
  -- Before content comes the drafts only match, so the second one may be any that does.
  suffices all : ∀ e, d.marked.Matches e → e.Within →
      (lines.foldl step d).EndsAlike (lines.foldl step e) from
    all d.marked (.refl _) within.marked
  induction lines generalizing d with
  | nil =>
      intro e same _
      -- The cascade has no say in what is put away.
      have closed : d.marked.close.scenes = d.close.scenes := by
        unfold close marked
        cases d.opened <;> rfl
      exact ⟨same.close.scenes.trans (congrArg _ closed), same.taggedLines, same.diagnostics⟩
  | cons line rest ih =>
      intro e same within'
      have stepped : (d.marked.step line).Matches (e.step line) :=
        same.step within.marked within' line
      cases content : line.isContent with
      | true =>
          rw [step_marked content] at stepped
          exact (stepped.foldl_step (within.step line) (within'.step line) rest).endsAlike
      | false =>
          have unheeded : ∀ tokens, line.kind = .tags tokens → d.cascade.heeds tokens = false := by
            intro tokens kind
            simp only [Cascade.misses, kind, Bool.or_eq_false_iff] at unmissed
            exact unmissed.1
          have missed : (d.step line).cascade.misses rest = false := by
            unfold SourceLine.isContent at content
            rw [cascade_step]
            cases kind : line.kind <;>
              simp_all [Cascade.misses]
          refine ih (within.step line) missed (e.step line) ?_ (within'.step line)
          exact (matches_marked_step content unheeded).trans stepped

end Draft

end Beatsheet

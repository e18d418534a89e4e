/-
# Beatsheet.Proofs.Draft.Frame — what a snippet is started with

A snippet gets its comments and those of the braces around it when it is started, and keeps them:
they frame its beats. So what can be seen of a snippet by its frame and its beats (`Snippet.view`)
stays the same when it is put away, and nothing is to be seen of a snippet that is dropped: all
that a line can do to such a view is to add a beat to the open snippet (`view_step`).

One such view lists every beat of a script with the frame it stands in (`Draft.framed`), whichever
container holds it by now; a line that is a beat comes into the frame of the snippet that is open
once the line has turned the flow (`framed_step`).
-/
import Beatsheet.Proofs.Draft.Growth
import Beatsheet.Proofs.Draft.Turned

set_option autoImplicit false

namespace Beatsheet

structure Frame where
  comments : List Text
  braceComments : List Text
  deriving DecidableEq, Repr

section Views

variable {ι κ α : Type}

def Snippet.frame (s : Snippet ι) : Frame :=
  ⟨s.comments, s.braceComments⟩

/-- What `g` makes of a snippet. -/
def Snippet.view (g : Frame → List Beat → List α) (s : Snippet ι) : List α :=
  g s.frame s.beats

/-- The beats of a snippet in its frame, each told by its origin. -/
def Snippet.framed (s : Snippet ι) : List (Origin × Frame) :=
  s.beats.map fun beat => (beat.origin, s.frame)

/-- Names do not matter. -/
@[simp] theorem Snippet.view_map (g : Frame → List Beat → List α) (f : Snippet ι → κ)
    (s : Snippet ι) : (s.map f).view g = s.view g := rfl

end Views

/-- All snippets of the open scene, the open one included. -/
def Opened.snippets (o : Opened) : List (Snippet Nat) :=
  o.scene.snippets ++ o.block.snippets ++ [o.snippet]

namespace Draft

/-- All snippets, those put away and those that are open. -/
def snippets (d : Draft) : List (Snippet Nat) :=
  d.scenes.flatMap (·.snippets) ++ d.opened.elim [] Opened.snippets

/-- What `g` makes of the snippets of the script, if it ends here. -/
def view {α : Type} (g : Frame → List Beat → List α) (d : Draft) : List α :=
  d.snippets.flatMap (Snippet.view g)

/-- The beats of the script, if it ends here, each in the frame of its snippet. -/
def framed (d : Draft) : List (Origin × Frame) :=
  d.snippets.flatMap Snippet.framed

/-- The frame that the next beat gets, if it is the next thing that happens. -/
def frame? (d : Draft) : Option Frame :=
  d.opened.map (·.snippet.frame)

variable {d e : Draft} {o : Opened}

/-! ## Views -/

section View

variable {α : Type} {g : Frame → List Beat → List α}

theorem view_congr (scenes : e.scenes = d.scenes) (opened : e.opened = d.opened) :
    e.view g = d.view g := by
  rw [view, snippets, scenes, opened, view, snippets]

/-- Putting the open snippet away does not change what is seen of it. -/
theorem view_closedBlock (silent : ∀ frame, g frame [] = []) (o : Opened) (index : Nat) :
    (o.closedBlock index).snippets.flatMap (Snippet.view g) =
      o.block.snippets.flatMap (Snippet.view g) ++ o.snippet.view g := by
  unfold Opened.closedBlock
  split
  · rename_i none_
    simp [Snippet.view, none_, silent]
  · rw [List.flatMap_append, List.flatMap_singleton]
    rfl

theorem view_closedScene (silent : ∀ frame, g frame [] = []) (o : Opened) (index : Nat) :
    (o.closedScene index).snippets.flatMap (Snippet.view g) =
      o.snippets.flatMap (Snippet.view g) := by
  rw [Opened.snippets_closedScene, List.flatMap_append, view_closedBlock silent, Opened.snippets]
  simp

theorem view_close (silent : ∀ frame, g frame [] = []) (d : Draft) :
    d.close.view g = d.view g := by
  have closed := d.snippets_close
  rw [view, snippets, opened_close, Option.elim_none, List.append_nil, closed, view, snippets,
    away, here]
  cases d.opened with
  | none => simp
  | some o =>
      simp only [Option.elim_some, Opened.snippets, List.flatMap_append, view_closedBlock silent]
      simp

theorem view_boundary (silent : ∀ frame, g frame [] = []) (d : Draft) :
    d.boundary.view g = d.view g := by
  cases opened : d.opened with
  | none =>
      rw [boundary_of_none opened]
      exact view_congr rfl rfl
  | some o =>
      have after := opened_boundary opened
      have fresh : (d.freshSnippet (o.carried ++ d.pending)).view g = [] := silent _
      rw [view, snippets, scenes_boundary, after, view, snippets, opened]
      simp [Opened.snippets, view_closedBlock silent, fresh]

theorem view_countGroup (d : Draft) : d.countGroup.view g = d.view g := by
  have counted := d.opened_countGroup
  have scenes : d.countGroup.scenes = d.scenes := rfl
  have same : ∀ s, (d.counted s).view g = s.view g := by
    intro s
    unfold Draft.counted
    split <;> rfl
  rw [view, snippets, scenes, counted, view, snippets]
  cases d.opened with
  | none => rfl
  | some o => simp [Opened.snippets, List.flatMap_map, same]

theorem view_beginScene (silent : ∀ frame, g frame [] = []) (d : Draft) (id : Text)
    (origin : Origin) : (d.beginScene id origin).view g = d.view g := by
  have closed := view_close silent d
  rw [view, snippets, opened_close, Option.elim_none, List.append_nil] at closed
  rw [← closed]
  simp [beginScene, emit, view, snippets, Opened.snippets, Scene.snippets, Snippet.view,
    freshSnippet, silent]

theorem view_beginBlock (silent : ∀ frame, g frame [] = []) (d : Draft) (id : Text)
    (origin : Origin) : (d.beginBlock id origin).view g = d.view g := by
  unfold beginBlock
  cases opened : d.opened with
  | none => exact view_congr rfl opened.symm
  | some o =>
      have scene := view_closedScene silent o d.members
      simp only [view, snippets, emit, opened, Option.elim_some, List.flatMap_append, ← scene]
      simp [Opened.snippets, freshSnippet, Snippet.view, silent]

theorem view_turned (silent : ∀ frame, g frame [] = []) (d : Draft) (line : SourceLine) :
    (d.turned line).view g = d.view g := by
  have heard := d.alike_heard line
  have same : (d.heard line).view g = d.view g := view_congr heard.scenes heard.opened
  unfold turned
  cases line.turn? with
  | none => exact same
  | some turn =>
      obtain ⟨e, scenes, opened, ⟨pending, eq⟩ | eq⟩ := (d.heard line).turn_cases turn
      all_goals rw [Option.elim_some, eq, ← same, ← view_congr scenes opened]
      · exact (view_congr rfl rfl).trans (view_boundary silent e)
      · rw [view_countGroup, view_boundary silent]

/-- A beat is added to the snippet that is open, and that is the last one to be seen. -/
theorem view_addBeat (opened : d.opened = some o) (beat : Beat) :
    ∃ (added : Beat) (front : List α), added.origin = beat.origin ∧
      d.view g = front ++ g o.snippet.frame o.snippet.beats ∧
      (d.addBeat o beat).view g = front ++ g o.snippet.frame (o.snippet.beats ++ [added]) := by
  obtain ⟨added, origin, after⟩ := d.opened_addBeat o beat
  refine ⟨added, (d.scenes.flatMap (·.snippets) ++ o.scene.snippets ++
    o.block.snippets).flatMap (Snippet.view g), origin, ?_, ?_⟩
  · rw [view, snippets, opened]
    simp [Opened.snippets, Snippet.view]
  · rw [view, snippets, scenes_addBeat, after]
    simp [Opened.snippets, Snippet.view, Snippet.frame]

/-- **All that a line can do to a view is to add a beat** to the snippet that is open once the line
has turned the flow. -/
theorem view_step (silent : ∀ frame, g frame [] = []) (d : Draft) (line : SourceLine) :
    (d.readsBeat line = false ∧ (d.step line).view g = d.view g) ∨
      (d.readsBeat line = true ∧ ∃ (o : Opened) (added : Beat) (front : List α),
        (d.turned line).opened = some o ∧ added.origin = line.origin ∧
        d.view g = front ++ g o.snippet.frame o.snippet.beats ∧
        (d.step line).view g = front ++ g o.snippet.frame (o.snippet.beats ++ [added])) := by
  have turned := view_turned silent d line
  have plays := d.plays_step line
  generalize d.step line = after at plays
  cases plays with
  | clause _ _ _ reads => exact .inl ⟨reads, (view_boundary silent _).trans turned⟩
  | knot heading _ reads => exact .inl ⟨reads, (view_beginScene silent _ _ _).trans turned⟩
  | stitch heading _ _ reads => exact .inl ⟨reads, (view_beginBlock silent _ _ _).trans turned⟩
  | beat e o beat alike opened stands _ _ reads =>
      obtain ⟨added, front, origin, was, now⟩ := view_addBeat opened beat
      rw [view_congr alike.scenes alike.opened, turned] at was
      exact .inr ⟨reads, o, added, front, alike.opened ▸ opened, origin.trans stands, was, now⟩
  | rest _ alike _ _ reads =>
      exact .inl ⟨reads, (view_congr alike.scenes alike.opened).trans turned⟩

end View

/-! ## Beats in their frames -/

/-- The view that lists the beats with their frame. -/
def framing (frame : Frame) (beats : List Beat) : List (Origin × Frame) :=
  beats.map fun beat => (beat.origin, frame)

theorem framing_nil (frame : Frame) : framing frame [] = [] := rfl

theorem framed_eq_view (d : Draft) : d.framed = d.view framing := rfl

/-- **A line that is a beat comes into the frame of the snippet that is open once the flow is
turned**, and all other beats stay in theirs. -/
theorem framed_step (d : Draft) (line : SourceLine) :
    (d.step line).framed.map (fun b => (b.1, some b.2)) =
      d.framed.map (fun b => (b.1, some b.2)) ++
        if d.readsBeat line then [(line.origin, (d.turned line).frame?)] else [] := by
  rw [framed_eq_view, framed_eq_view]
  rcases view_step framing_nil d line with
    ⟨reads, same⟩ | ⟨reads, o, added, front, opened, origin, was, now⟩
  · rw [same, reads]
    simp
  · have frame : (d.turned line).frame? = some o.snippet.frame := by
      rw [frame?, opened, Option.map_some]
    rw [now, was, reads, frame, ← origin]
    simp [framing]

end Draft

end Beatsheet

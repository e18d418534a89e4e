/-
# Beatsheet.Proofs.Draft.Seat — where the next beat goes

A beat takes the seat of the open snippet (`seated_step`), so what keeps two beats apart is what
happens to this seat between them. A turn of the flow leaves all beats where they are and moves the
seat on past those of the open snippet (`Breaks`, `breaks_turn`); a header moves it into another
block; nothing else moves it. Hence, as long as a beat at a seat is followed by lines that stay in
its block, the open snippet is still its own just if none of them has turned the flow
(`since_upTo`).
-/
import Beatsheet.Proofs.Draft.Turned
import Beatsheet.Proofs.Forest.Seat

set_option autoImplicit false

namespace Beatsheet

namespace Opened

variable (o : Opened)

/-- The number of snippets in the open block, once the open snippet is put away. -/
def count : Nat :=
  o.block.snippets.length + if o.snippet.beats.isEmpty then 0 else 1

/-- The seat of the open snippet, if the scene is the one of this number. -/
def seat (scene : Nat) : Seat :=
  ⟨scene, o.scene.blocks.length, o.block.snippets.length⟩

/-- The seat of the snippet that comes next in the block. -/
def nextSeat (scene : Nat) : Seat :=
  ⟨scene, o.scene.blocks.length, o.count⟩

def seated (scene : Nat) : List (Seat × Beat) :=
  o.scene.seated scene ++ o.block.seated scene o.scene.blocks.length ++
    o.snippet.seated (o.seat scene)

@[simp] theorem length_closedBlock (index : Nat) :
    (o.closedBlock index).snippets.length = o.count := by
  unfold closedBlock count
  cases o.snippet.beats <;> simp

/-- A block is put away unless nothing was put away in it. -/
theorem length_closedScene (index : Nat) :
    (o.closedScene index).blocks.length =
      o.scene.blocks.length + if o.count = 0 then 0 else 1 := by
  have count := o.length_closedBlock index
  rw [closedScene_eq, ← count]
  cases (o.closedBlock index).snippets <;> simp

/-- Putting the open snippet away moves no beat. -/
@[simp] theorem seated_closedBlock (index scene block : Nat) :
    (o.closedBlock index).seated scene block =
      o.block.seated scene block ++
        o.snippet.seated ⟨scene, block, o.block.snippets.length⟩ := by
  unfold closedBlock
  split
  · rename_i none_
    simp [Snippet.seated, none_]
  · exact Block.seated_concat scene block o.block _

/-- Putting the open block away moves no beat. -/
@[simp] theorem seated_closedScene (index scene : Nat) :
    (o.closedScene index).seated scene = o.seated scene := by
  have block := o.seated_closedBlock index scene o.scene.blocks.length
  rw [closedScene_eq]
  split
  · rename_i none_
    rw [List.isEmpty_iff] at none_
    rw [Block.seated, none_] at block
    rw [seated, List.append_assoc, seat, ← block]
    simp
  · rw [Scene.seated_concat, block, seated, seat, List.append_assoc]

end Opened

namespace Draft

/-- The beats of the script with their seats, if it ends here. -/
def seated (d : Draft) : List (Seat × Beat) :=
  Beatsheet.seated d.scenes ++ d.opened.elim [] (·.seated d.scenes.length)

/-- The seat that the next beat takes, if it is the next thing that happens. -/
def seat? (d : Draft) : Option Seat :=
  d.opened.map (·.seat d.scenes.length)

variable {d e f : Draft} {o : Opened}

theorem seated_congr (scenes : e.scenes = d.scenes) (opened : e.opened = d.opened) :
    e.seated = d.seated := by
  rw [seated, scenes, opened, seated]

/-- Putting the open scene away moves no beat. -/
theorem seated_close (d : Draft) : d.close.seated = d.seated := by
  cases opened : d.opened with
  | none => simp only [close, opened]
  | some o =>
      have scene := o.seated_closedScene d.members d.scenes.length
      simp only [seated, close, opened, Option.elim_some, Option.elim_none, List.append_nil]
      split
      · rename_i none_
        rw [List.isEmpty_iff] at none_
        rw [Scene.seated, none_] at scene
        rw [← scene]
        simp
      · rw [Beatsheet.seated_concat, scene]

/-! ## Turning the flow -/

/-- No beat moves, and the open snippet makes way for an empty one next to it. -/
structure Breaks (d e : Draft) : Prop where
  scenes : e.scenes = d.scenes
  seated : e.seated = d.seated
  opened : ∀ o, d.opened = some o → ∃ o', e.opened = some o' ∧
    o'.seat d.scenes.length = o.nextSeat d.scenes.length ∧ o'.count = o.count

theorem Breaks.congr (breaks : e.Breaks f) (scenes : e.scenes = d.scenes)
    (opened : e.opened = d.opened) : d.Breaks f := by
  refine ⟨breaks.scenes.trans scenes, breaks.seated.trans (seated_congr scenes opened), ?_⟩
  rw [← scenes, ← opened]
  exact breaks.opened

theorem breaks_boundary (d : Draft) : d.Breaks d.boundary := by
  cases opened : d.opened with
  | none =>
      rw [boundary_of_none opened]
      refine ⟨rfl, rfl, fun o some_ => ?_⟩
      rw [opened] at some_
      cases some_
  | some o =>
      have after := opened_boundary opened
      refine ⟨d.scenes_boundary, ?_, fun o' same => ?_⟩
      · simp [seated, after, opened, Opened.seated, Opened.seat, Snippet.seated, freshSnippet]
      · obtain rfl := Option.some.inj (opened.symm.trans same)
        refine ⟨_, after, ?_, ?_⟩
        · simp [Opened.seat, Opened.nextSeat]
        · simp [Opened.count, freshSnippet]

/-- Telling the members of a group how many they are moves nothing. -/
theorem Breaks.countGroup (breaks : d.Breaks e) : d.Breaks e.countGroup := by
  have counted := e.opened_countGroup
  have seated : e.countGroup.seated = e.seated := by
    have scenes : e.countGroup.scenes = e.scenes := rfl
    rw [Draft.seated, Draft.seated, counted, scenes]
    cases e.opened with
    | none => rfl
    | some o =>
        simp only [Option.map_some, Option.elim_some, Opened.seated, Opened.seat,
          Block.seated_map_snippets e.beats_counted, List.length_map]
  refine ⟨breaks.scenes, seated.trans breaks.seated, fun o opened => ?_⟩
  obtain ⟨o', after, seat, count⟩ := breaks.opened o opened
  rw [after] at counted
  refine ⟨_, counted, ?_, ?_⟩
  · simpa only [Opened.seat, List.length_map] using seat
  · simpa only [Opened.count, List.length_map] using count

theorem breaks_turn (d : Draft) (turn : Turn) : d.Breaks (d.turn turn) := by
  obtain ⟨e, scenes, opened, ⟨pending, eq⟩ | eq⟩ := d.turn_cases turn
  · have breaks : e.Breaks { e.boundary with pending } :=
      ⟨(breaks_boundary e).scenes, (breaks_boundary e).seated, (breaks_boundary e).opened⟩
    exact eq ▸ breaks.congr scenes opened
  · exact eq ▸ (breaks_boundary e).countGroup.congr scenes opened

/-! ## Headers -/

theorem seated_beginScene (d : Draft) (id : Text) (origin : Origin) :
    (d.beginScene id origin).seated = d.seated := by
  have closed := d.seated_close
  rw [seated, opened_close, Option.elim_none, List.append_nil] at closed
  rw [← closed]
  simp [beginScene, emit, seated, Opened.seated, Opened.seat, Scene.seated, Block.seated,
    Snippet.seated, freshSnippet]

theorem seated_beginBlock (d : Draft) (id : Text) (origin : Origin) :
    (d.beginBlock id origin).seated = d.seated := by
  unfold beginBlock
  cases opened : d.opened with
  | none => simp [seated, emit, opened]
  | some o =>
      have scene := o.seated_closedScene d.members d.scenes.length
      simp only [seated, emit, opened, Option.elim_some]
      rw [Opened.seated, scene]
      simp [Block.seated, Snippet.seated, freshSnippet]

/-! ## Beats -/

/-- A beat takes the seat of the open snippet. -/
theorem seated_addBeat (opened : d.opened = some o) (beat : Beat) :
    ∃ added : Beat, added.origin = beat.origin ∧
      (d.addBeat o beat).seated = d.seated ++ [(o.seat d.scenes.length, added)] := by
  obtain ⟨added, origin, after⟩ := d.opened_addBeat o beat
  refine ⟨added, origin, ?_⟩
  rw [seated, seated, scenes_addBeat, after, opened]
  simp [Opened.seated, Opened.seat, Snippet.seated]

/-! ## What a line does to the seats -/

theorem breaks_turned (d : Draft) (line : SourceLine) :
    (line.turn?.isSome = false ∧ d.Alike (d.turned line)) ∨
      (line.turn?.isSome = true ∧ d.Breaks (d.turned line)) := by
  have alike := d.alike_heard line
  unfold turned
  cases line.turn? with
  | none => exact .inl ⟨rfl, alike⟩
  | some turn => exact .inr ⟨rfl, (breaks_turn _ turn).congr alike.scenes alike.opened⟩

theorem seated_turned (d : Draft) (line : SourceLine) : (d.turned line).seated = d.seated := by
  rcases d.breaks_turned line with ⟨-, alike⟩ | ⟨-, breaks⟩
  · exact seated_congr alike.scenes alike.opened
  · exact breaks.seated

/-- **A line that is a beat takes the seat that is next once the flow is turned**, and no beat ever
moves. -/
theorem seated_step (d : Draft) (line : SourceLine) :
    (d.step line).seated.map (fun b => (some b.1, b.2.origin)) =
      d.seated.map (fun b => (some b.1, b.2.origin)) ++
        if d.readsBeat line then [((d.turned line).seat?, line.origin)] else [] := by
  have turned := d.seated_turned line
  have plays := d.plays_step line
  generalize d.step line = after at plays
  cases plays with
  | clause _ _ _ reads =>
      rw [(breaks_boundary _).seated, turned]
      simp [reads]
  | knot heading _ reads =>
      rw [seated_beginScene, turned]
      simp [reads]
  | stitch heading _ _ reads =>
      rw [seated_beginBlock, turned]
      simp [reads]
  | beat e o beat alike opened stands _ _ reads =>
      obtain ⟨beat', origin, added⟩ := seated_addBeat opened beat
      have seat : (d.turned line).seat? = some (o.seat e.scenes.length) := by
        rw [seat?, ← alike.opened, ← alike.scenes, opened, Option.map_some]
      rw [added, seated_congr alike.scenes alike.opened, turned, seat, ← stands, ← origin]
      simp [reads]
  | rest _ alike _ _ reads =>
      rw [seated_congr alike.scenes alike.opened, turned]
      simp [reads]

/-! ## Since a beat -/

/-- After a beat at the seat `p`, the next beat's seat is behind it or the same; as long as it is in
the same block, it is the same just if no turn of the flow has been `crossed`. -/
def Since (d : Draft) (p : Seat) (crossed : Bool) : Prop :=
  ∃ o, d.opened = some o ∧ p.Before (o.nextSeat d.scenes.length) ∧
    (p.SameBlock (o.seat d.scenes.length) →
      (p.snippet = (o.seat d.scenes.length).snippet ↔ crossed = false))

variable {p : Seat} {crossed : Bool}

theorem Since.alike (since : d.Since p crossed) (alike : d.Alike e) : e.Since p crossed := by
  rw [Since, alike.opened, alike.scenes]
  exact since

theorem Since.breaks (since : d.Since p crossed) (breaks : d.Breaks e) : e.Since p true := by
  obtain ⟨o, opened, before, -⟩ := since
  obtain ⟨o', after, seat, count⟩ := breaks.opened o opened
  have block : o'.scene.blocks.length = o.scene.blocks.length := congrArg Seat.block seat
  refine ⟨o', after, ?_, ?_⟩
  · rw [breaks.scenes, Opened.nextSeat, block, count]
    exact before
  · rw [breaks.scenes, seat]
    rintro ⟨scene, block⟩
    simp only [Seat.Before] at before
    simp only [Bool.true_eq_false, iff_false]
    omega

theorem Since.turned (since : d.Since p crossed) (line : SourceLine) :
    (d.turned line).Since p (crossed || line.turn?.isSome) := by
  rcases d.breaks_turned line with ⟨quiet, alike⟩ | ⟨turns, breaks⟩
  · rw [quiet, Bool.or_false]
    exact since.alike alike
  · rw [turns, Bool.or_true]
    exact since.breaks breaks

/-- A scene begins behind all beats so far, so in another block. -/
theorem Since.beginScene (since : d.Since p crossed) (id : Text) (origin : Origin)
    (crossed' : Bool) : (d.beginScene id origin).Since p crossed' := by
  obtain ⟨o, opened, before, -⟩ := since
  have scenes : p.scene < (d.beginScene id origin).scenes.length := by
    have blocks := o.length_closedScene d.members
    simp only [Seat.Before, Opened.nextSeat] at before
    simp only [Draft.beginScene, emit, close, opened]
    split
    · rename_i none_
      rw [List.isEmpty_iff] at none_
      rw [none_, List.length_nil] at blocks
      split at blocks <;> omega
    · rw [List.length_append, List.length_singleton]
      omega
  refine ⟨_, rfl, .inl scenes, ?_⟩
  rintro ⟨scene, -⟩
  exact absurd scene (Nat.ne_of_lt scenes)

/-- So does a block. -/
theorem Since.beginBlock (since : d.Since p crossed) (id : Text) (origin : Origin)
    (crossed' : Bool) : (d.beginBlock id origin).Since p crossed' := by
  obtain ⟨o, opened, before, -⟩ := since
  have blocks := o.length_closedScene d.members
  have behind : p.scene < d.scenes.length ∨
      p.scene = d.scenes.length ∧ p.block < (o.closedScene d.members).blocks.length := by
    rw [blocks]
    simp only [Seat.Before, Opened.nextSeat] at before
    split <;> omega
  obtain ⟨o', after, scene⟩ : ∃ o', (d.beginBlock id origin).opened = some o' ∧
      o'.scene = o.closedScene d.members := by
    simp only [Draft.beginBlock, emit, opened]
    exact ⟨_, rfl, rfl⟩
  refine ⟨o', after, ?_, ?_⟩
  · rw [scenes_beginBlock, Opened.nextSeat, scene]
    rcases behind with scene | ⟨same, block⟩
    · exact .inl scene
    · exact .inr ⟨same, .inl block⟩
  · rw [scenes_beginBlock, Opened.seat, scene]
    rintro ⟨same, block⟩
    simp only at same block
    omega

/-- More beats in the open snippet do not move its seat. -/
theorem Since.addBeat (since : d.Since p crossed) (opened : d.opened = some o) (beat : Beat) :
    (d.addBeat o beat).Since p crossed := by
  obtain ⟨o₁, opened₁, before, stays⟩ := since
  obtain rfl := Option.some.inj (opened.symm.trans opened₁)
  obtain ⟨added, -, after⟩ := d.opened_addBeat o beat
  refine ⟨_, after, ?_, ?_⟩
  · rw [scenes_addBeat]
    simp only [Seat.Before, Opened.nextSeat, Opened.count] at before ⊢
    cases beats : o.snippet.beats <;> simp [beats] at before ⊢ <;> omega
  · rw [scenes_addBeat]
    exact stays

theorem since_addBeat (d : Draft) (o : Opened) (beat : Beat) :
    (d.addBeat o beat).Since (o.seat d.scenes.length) false := by
  obtain ⟨added, -, after⟩ := d.opened_addBeat o beat
  refine ⟨_, after, ?_, ?_⟩
  · rw [scenes_addBeat]
    refine .inr ⟨rfl, .inr ⟨rfl, ?_⟩⟩
    simp [Opened.seat, Opened.nextSeat, Opened.count]
  · rw [scenes_addBeat]
    simp [Opened.seat]

theorem Since.step (since : d.Since p crossed) (line : SourceLine) :
    (d.step line).Since p (crossed || line.turn?.isSome) := by
  have turned := since.turned line
  have plays := d.plays_step line
  generalize d.step line = after at plays
  cases plays with
  | clause turns _ _ _ =>
      rw [turns, Bool.or_true] at turned ⊢
      exact turned.breaks (breaks_boundary _)
  | knot heading _ _ => exact turned.beginScene _ _ _
  | stitch heading _ _ _ => exact turned.beginBlock _ _ _
  | beat e o beat alike opened _ _ _ _ => exact (turned.alike alike).addBeat opened beat
  | rest _ alike _ _ _ => exact turned.alike alike

/-- A line that is a beat leaves its own snippet open. -/
theorem since_step {line : SourceLine} (reads : d.readsBeat line = true)
    (seat : (d.turned line).seat? = some p) : (d.step line).Since p false := by
  have plays := d.plays_step line
  generalize d.step line = after at plays
  cases plays with
  | beat e o beat alike opened _ _ _ _ =>
      rw [seat?, ← alike.opened, ← alike.scenes, opened, Option.map_some] at seat
      obtain rfl := Option.some.inj seat
      exact since_addBeat e o beat
  | clause _ _ _ no | knot _ _ no | stitch _ _ _ no | rest _ _ _ _ no =>
      rw [no] at reads
      cases reads

/-- **As long as its block is open, a beat's snippet is open until a line turns the flow.** -/
theorem since_upTo {lines : List SourceLine} {line : SourceLine}
    (reads : (upTo lines).readsBeat line = true)
    (seat : ((upTo lines).turned line).seat? = some p) (more : List SourceLine) :
    (upTo (lines ++ [line] ++ more)).Since p (more.any (·.turn?.isSome)) := by
  induction more using List.reverseRecOn with
  | nil =>
      rw [List.append_nil, upTo_concat]
      exact since_step reads seat
  | append_singleton more next ih =>
      rw [← List.append_assoc, upTo_concat, List.any_append]
      simpa using ih.step next

end Draft

end Beatsheet

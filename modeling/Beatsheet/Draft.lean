/-
# Beatsheet.Draft — drafts

A draft is what has been read of a script so far. `Draft.step` takes in one line, and the draft of a
script is the fold of `step` over its lines, with what is still open put away at the end.

* Scenes, blocks and snippets are put away when the next one begins, and only if they hold
  something.
* A **boundary** ends the open snippet and starts a fresh one. Each snippet started counts, whether
  it comes to hold beats or not; the count is its name in the draft.
* Comments wait in `pending` for the beat, header, snippet or brace level they belong to. Those of
  an empty snippet move on to the one that replaces it.
* A level of braces keeps the comments that stood before it, and a fresh snippet gets those of all
  open levels.
* A group of alternatives lives as long as the level it was opened with. Groups do not nest: the
  levels inside a group belong to it.

No line can fail. `Draft.step` does not see snippet identifiers, nor whether the run is verbose.
-/
import Beatsheet.Source.Line
import Beatsheet.Line.Kind
import Beatsheet.Draft.Event
import Beatsheet.Draft.Level

set_option autoImplicit false

namespace Beatsheet

/-- The scene, block and snippet that are being read. The scene holds the blocks put away so far,
the block the snippets put away so far. -/
structure Opened where
  scene : Scene Nat
  block : Block Nat
  snippet : Snippet Nat
  deriving DecidableEq, Repr

namespace Opened

/-- The block with the open snippet in it, unless that is empty; `index` is its place in a group. -/
def closedBlock (o : Opened) (index : Nat) : Block Nat :=
  match o.snippet.beats with
  | [] => o.block
  | beat :: _ =>
    let snippet :=
      { o.snippet with origin := beat.origin, groupIndex := o.snippet.group.map fun _ => index }
    { o.block with snippets := o.block.snippets ++ [snippet] }

/-- How many members the open snippet adds to its group. -/
def newMembers (o : Opened) : Nat :=
  if !o.snippet.beats.isEmpty && o.snippet.group.isSome then 1 else 0

/-- The scene with the open block in it, unless that is empty. -/
def closedScene (o : Opened) (index : Nat) : Scene Nat :=
  let block := o.closedBlock index
  if block.snippets.isEmpty then o.scene
  else { o.scene with blocks := o.scene.blocks ++ [block] }

/-- The comments that a snippet started now takes over from the open one. -/
def carried (o : Opened) : List Text :=
  if o.snippet.beats.isEmpty then o.snippet.comments else []

end Opened

/-- What has been read so far. Groups and their members are counted without a bound; below `2 ^ 32`
these counts are those of 32-bit counters. -/
structure Draft where
  scenes : List (Scene Nat) := []
  taggedLines : List TaggedLine := []
  events : List Event := []
  opened : Option Opened := none
  /-- Comments that no part of the script has taken yet. -/
  pending : List Text := []
  levels : Levels := {}
  /-- How deep the braces were once the open group was opened. -/
  groupDepth : Option Nat := none
  /-- The number of groups so far, which is the ordinal of the last one. -/
  groups : Nat := 0
  /-- The number of snippets put away in the last group. -/
  members : Nat := 0
  /-- Whether a gather would merge alternatives. -/
  merging : Bool := false
  cascade : Cascade := {}
  /-- The number of snippets started. -/
  started : Nat := 0
  deriving DecidableEq, Repr

namespace Draft

/-- The comment that marks where alternatives merge. -/
def mergeMark : Text :=
  "MERGE".toList

/-- The comment that marks where a choice begins. -/
def choiceMark (text : Text) : Text :=
  "OPTION \"".toList ++ text ++ ['"']

def emit (d : Draft) (e : Event) : Draft :=
  { d with events := d.events ++ [e] }

def complain (d : Draft) (c : Complaint) (origin : Origin) : Draft :=
  d.emit (.reported (c.diagnostic origin))

def note (d : Draft) (comment : Text) : Draft :=
  { d with pending := d.pending ++ [comment] }

/-! ## Snippets, blocks and scenes -/

/-- The next snippet, with the comments of the open brace levels. -/
def freshSnippet (d : Draft) (comments : List Text) : Snippet Nat :=
  { id := d.started, comments := comments, braceComments := d.levels.comments }

/-- Ends the open snippet and starts a fresh one, which takes the pending comments. Outside a scene
the pending comments are lost. -/
def boundary (d : Draft) : Draft :=
  match d.opened with
  | none => { d with pending := [] }
  | some o =>
    { d with
      opened := some
        { o with
          block := o.closedBlock d.members
          snippet := d.freshSnippet (o.carried ++ d.pending) }
      pending := []
      members := d.members + o.newMembers
      started := d.started + 1 }

/-- Puts the open scene away, unless it is empty. -/
def close (d : Draft) : Draft :=
  match d.opened with
  | none => d
  | some o =>
    let scene := o.closedScene d.members
    { d with
      opened := none
      members := d.members + o.newMembers
      scenes := if scene.blocks.isEmpty then d.scenes else d.scenes ++ [scene] }

/-- Begins a scene and, in it, a block without a name, which takes the pending comments. -/
def beginScene (d : Draft) (id : Text) (origin : Origin) : Draft :=
  let d := ({ d.close with cascade := d.cascade.beginScene }).emit (.sceneBegun id)
  { d with
    opened := some
      { scene := { id, origin }
        block := { comments := d.pending, origin }
        snippet := d.freshSnippet [] }
    pending := []
    started := d.started + 1 }

/-- Begins a block, which takes the pending comments. Outside a scene nothing can hold it. -/
def beginBlock (d : Draft) (id : Text) (origin : Origin) : Draft :=
  let d := ({ d with cascade := d.cascade.beginBlock }).emit (.blockBegun id)
  match d.opened with
  | none => { d with pending := [] }
  | some o =>
    { d with
      opened := some
        { scene := o.closedScene d.members
          block := { id, comments := d.pending, origin }
          snippet := d.freshSnippet [] }
      pending := []
      members := d.members + o.newMembers
      started := d.started + 1 }

/-! ## Turns of the flow -/

/-- Opens a level of braces, which takes the pending comments, and a group if none is open. -/
def openLevel (d : Draft) (group : Bool) : Draft :=
  let d := { d with levels := d.levels.push d.pending, pending := [] }
  let d :=
    if group && d.groupDepth.isNone then
      ({ d with
        groupDepth := some d.levels.depth
        groups := d.groups + 1
        members := 0 }).emit (.groupOpened (d.groups + 1) d.levels.depth)
    else d
  d.boundary

/-- Tells the snippets of the last group how many they are, as far as they are in the open block. -/
def countGroup (d : Draft) : Draft :=
  let count (s : Snippet Nat) : Snippet Nat :=
    if s.group == some d.groups then { s with groupCount := some d.members } else s
  { d with
    opened := d.opened.map fun o =>
      { o with block := { o.block with snippets := o.block.snippets.map count } } }

/-- Closes the innermost level of braces, and the open group if that was its level. -/
def closeLevel (d : Draft) : Draft :=
  let levels := d.levels.pop
  if d.groupDepth.any (levels.depth < ·) then
    let d := ({ d with groupDepth := none, merging := true }).note mergeMark
    let d := d.emit (.groupClosed d.groups)
    ({ d with levels }).boundary.countGroup
  else ({ d with levels }).boundary

/-- A boundary that leaves the pending comments for the beat on the same line. -/
def boundaryKeeping (d : Draft) : Draft :=
  { ({ d with pending := [] }).boundary with pending := d.pending }

def turn (d : Draft) : Turn → Draft
  | .opening group => d.openLevel group
  | .closing => d.closeLevel
  | .speech =>
    if d.cascade.active then d.boundaryKeeping else ({ d with merging := false }).boundary
  | .choice text => (({ d with merging := true }).note (choiceMark text)).boundary
  | .gather =>
    if d.merging then (({ d with merging := false }).note mergeMark).boundary else d.boundary
  | .other => ({ d with merging := false }).boundary

/-! ## Prose -/

/-- The beat of a shape, before it takes comments and inherits tags. -/
def beatOf (origin : Origin) : Shape → Beat
  | .speech s =>
    { id := s.id, tags := s.tags, origin, text := s.text,
      part := .line s.speaker s.qualifier s.direction }
  | .action a => { id := a.id, tags := a.tags, origin, text := a.text, part := .action none }

/-- Adds a beat to the open snippet; it takes the pending comments and inherits tags. -/
def addBeat (d : Draft) (o : Opened) (beat : Beat) : Draft :=
  let beat := { beat with comments := d.pending, tags := d.cascade.apply beat.tags }
  let snippet :=
    { o.snippet with
      group := if d.groupDepth.isSome then some d.groups else o.snippet.group
      beats := o.snippet.beats ++ [beat] }
  let d := ({ d with opened := some { o with snippet }, pending := [] }).emit (.beatRead beat)
  if beat.id.isEmpty then d.complain (.missingId beat.text) beat.origin else d

/-- Records a line that is no beat, if it declares an identifier. The pending comments are lost. -/
def passBy (d : Draft) (origin : Origin) (tagged : Option Tagged) : Draft :=
  let d := { d with pending := [] }
  match tagged with
  | none => d
  | some t =>
    let entry : TaggedLine := { id := t.id, tags := d.cascade.apply t.tags, origin }
    ({ d with taggedLines := d.taggedLines ++ [entry] }).emit (.lineTagged t.id origin)

/-- Where the annotation is on and a scene is open, a shape becomes a beat. -/
def takeShape (d : Draft) (line : Text) (origin : Origin) (ways : Prose) : Draft :=
  match ways.shape with
  | none => d.passBy origin ways.tagged
  | some shape =>
    if d.cascade.active then
      match d.opened with
      | some o => d.addBeat o (beatOf origin shape)
      | none => d.passBy origin ways.tagged
    else
      match shape with
      | .speech _ => (d.complain (.speechOutside line) origin).passBy origin ways.tagged
      | .action _ => d.passBy origin ways.tagged

/-- Prose is a label, a beat, a tagged line or nothing. -/
def prose (d : Draft) (line : Text) (origin : Origin) (ways : Prose) : Draft :=
  let d :=
    if ways.straying && d.cascade.active then d.complain (.contentAfterClause line) origin else d
  match (if d.cascade.active then ways.label else none) with
  | some label => d.note label
  | none => d.takeShape line origin ways

/-! ## Lines -/

def play (d : Draft) (line : Text) (origin : Origin) : Role → Draft
  | .clause => d.boundary
  | .knot id => d.beginScene id origin
  | .stitch id => d.beginBlock id origin
  | .comment text => d.note text
  | .prose ways => d.prose line origin ways

/-- Takes in a line that has no comment at its end. -/
def take (d : Draft) (line : Text) (origin : Origin) : Kind → Draft
  | .blank => d
  | .statement => d
  | .tags tokens =>
    ({ d with cascade := d.cascade.route tokens }).emit (.tagsRouted d.cascade.scope? line)
  | .content turn role =>
    let d := { d with cascade := d.cascade.markContent }
    (turn.elim d d.turn).play line origin role

/-- Takes in a line. The comment at its end is pending from then on, so what the line itself begins
can take it. -/
def step (d : Draft) (line : SourceLine) : Draft :=
  let reading := Reading.ofLine line.text
  (reading.comment.elim d d.note).take reading.body line.origin reading.kind

/-- The draft of a script. -/
def ofLines (lines : List SourceLine) : Draft :=
  (lines.foldl step {}).close

def diagnostics (d : Draft) : List Diagnostic :=
  d.events.filterMap Event.diagnostic?

end Draft

end Beatsheet

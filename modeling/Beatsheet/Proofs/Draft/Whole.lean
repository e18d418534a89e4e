/-
# Beatsheet.Proofs.Draft.Whole — no text of a draft is broken

A draft is whole if no text in it holds a line break: neither in what is put away, open or
recorded, nor in what still waits to be taken, which are the pending comments, those of the brace
levels and the tags of the cascade. Lines hold no line break and what is read off them does not
either (`Reading.within_ofLine`), and the few texts that a draft makes up itself are in one line. So
a whole draft stays whole with every line (`Whole.step`), and the draft of every script is
(`whole_upTo`).
-/
import Beatsheet.Proofs.Draft.Basic
import Beatsheet.Proofs.Draft.Move
import Beatsheet.Proofs.Forest.Dump
import Beatsheet.Proofs.Line.Within
import Beatsheet.Proofs.Tag.Inherit

set_option autoImplicit false

namespace Beatsheet

open Text

def TaggedLine.texts (t : TaggedLine) : List Text :=
  t.id :: t.tags

/-- The text that is complained of. -/
def Complaint.subject : Complaint → Text
  | .contentAfterClause line => line
  | .speechOutside line => line
  | .missingId text => text

theorem Complaint.unbroken_message {c : Complaint} (line : Unbroken c.subject) :
    Unbroken c.message := by
  cases c with
  | contentAfterClause _ => exact unbroken_append.mpr ⟨by decide +kernel, line⟩
  | speechOutside _ => exact unbroken_append.mpr ⟨by decide +kernel, line⟩
  | missingId _ => exact unbroken_append.mpr ⟨by decide +kernel, line⟩

/-! ## Levels and tags -/

/-- A comment of the open levels is one of some level. -/
theorem Levels.exists_of_mem_comments {l : Levels} {comment : Text}
    (member : comment ∈ l.comments) : ∃ level ∈ l.opened, comment ∈ level.comments := by
  have walked : ∀ {steps place found}, walk? l.opened steps place = some found →
      comment ∈ found → ∃ level ∈ l.opened, comment ∈ level.comments := by
    intro steps
    induction steps with
    | zero =>
        intro place found walk inFound
        cases place with
        | none =>
            obtain rfl := Option.some.inj walk
            cases inFound
        | some i => cases walk
    | succ steps ih =>
        intro place found walk inFound
        cases place with
        | none =>
            obtain rfl := Option.some.inj walk
            cases inFound
        | some i =>
            obtain ⟨level, there, onward⟩ := Option.bind_eq_some_iff.mp walk
            obtain ⟨outer, outward, made⟩ := Option.bind_eq_some_iff.mp onward
            obtain rfl := Option.some.inj made
            rcases List.mem_append.mp inFound with own | around
            · exact ⟨level, List.mem_of_getElem? there, own⟩
            · exact ih outward around
  unfold comments at member
  cases found : l.comments? with
  | none =>
      rw [found] at member
      cases member
  | some all =>
      rw [found] at member
      exact walked found member

namespace Cascade

theorem adding_subset (tags offers : List Text) : adding tags offers ⊆ offers := by
  intro tag member
  obtain ⟨offer, kept, rfl⟩ := List.mem_map.mp member
  exact List.fst_mem_of_mem_zipIdx (List.mem_filter.mp kept).1

theorem mem_apply {c : Cascade} {tags : List Text} {tag : Text} (member : tag ∈ c.apply tags) :
    tag ∈ tags ∨ tag ∈ c.offered := by
  rw [apply, foldl_adopt] at member
  exact (List.mem_append.mp member).imp_right fun new => adding_subset _ _ new

/-- The scopes hold what they held and the tokens that are routed. -/
theorem mem_offered_route {c : Cascade} {tokens : List Text} {tag : Text}
    (member : tag ∈ (c.route tokens).offered) : tag ∈ c.offered ∨ tag ∈ tokens := by
  have within : kept tokens ⊆ tokens := List.filter_sublist.subset
  unfold route at member
  dsimp only at member
  split at member
  · rename_i scope _
    cases scope
    all_goals
      simp only [extend, offered, List.mem_append] at member ⊢
      have routed := @within tag
      tauto
  · exact .inl member

end Cascade

/-! ## What is open -/

namespace Opened

/-- The texts of the open scene, block and snippet are unbroken. -/
structure Whole (o : Opened) : Prop where
  scene : ∀ t ∈ o.scene.texts, Unbroken t
  block : ∀ t ∈ o.block.texts, Unbroken t
  snippet : ∀ t ∈ o.snippet.texts, Unbroken t

variable {o : Opened}

theorem whole_closedBlock (whole : o.Whole) (index : Nat) :
    ∀ t ∈ (o.closedBlock index).texts, Unbroken t := by
  have block := whole.block
  have snippet := whole.snippet
  unfold closedBlock
  split
  · exact block
  · simp only [Block.texts, Snippet.texts, List.forall_mem_cons, List.forall_mem_append,
      List.forall_mem_flatMap] at block snippet ⊢
    exact ⟨block.1, block.2.1, block.2.2, snippet, List.forall_mem_nil _⟩

theorem whole_closedScene (whole : o.Whole) (index : Nat) :
    ∀ t ∈ (o.closedScene index).texts, Unbroken t := by
  have scene := whole.scene
  have block := whole_closedBlock whole index
  unfold closedScene
  dsimp only
  split
  · exact scene
  · simp only [Scene.texts, List.forall_mem_cons, List.forall_mem_append,
      List.forall_mem_flatMap] at scene ⊢
    exact ⟨scene.1, scene.2.1, scene.2.2, block, List.forall_mem_nil _⟩

theorem whole_carried (whole : o.Whole) : ∀ t ∈ o.carried, Unbroken t := by
  have snippet := whole.snippet
  simp only [Snippet.texts, List.forall_mem_append] at snippet
  unfold carried
  split
  · exact snippet.1.1
  · exact List.forall_mem_nil _

end Opened

/-! ## Drafts -/

namespace Draft

/-- No text of the draft, nor any that waits to be taken, holds a line break. -/
structure Whole (d : Draft) : Prop where
  scenes : ∀ s ∈ d.scenes, ∀ t ∈ s.texts, Unbroken t
  taggedLines : ∀ line ∈ d.taggedLines, ∀ t ∈ line.texts, Unbroken t
  messages : ∀ report ∈ d.diagnostics, Unbroken report.message
  opened : ∀ o, d.opened = some o → o.Whole
  pending : ∀ t ∈ d.pending, Unbroken t
  levels : ∀ level ∈ d.levels.opened, ∀ t ∈ level.comments, Unbroken t
  tags : ∀ t ∈ d.cascade.offered, Unbroken t

theorem whole_empty : Whole {} := by
  constructor <;> simp [diagnostics, Cascade.offered]

variable {d : Draft}

theorem unbroken_mergeMark : Unbroken mergeMark := by decide

theorem unbroken_choiceMark {text : Text} (line : Unbroken text) : Unbroken (choiceMark text) :=
  unbroken_append.mpr ⟨unbroken_append.mpr ⟨by decide +kernel, line⟩, by decide⟩

/-! Some of it may change, as long as the texts are unbroken. -/

namespace Whole

theorem note (whole : d.Whole) {comment : Text} (line : Unbroken comment) :
    (d.note comment).Whole :=
  { whole with
    pending := List.forall_mem_append.mpr ⟨whole.pending, List.forall_mem_singleton.mpr line⟩ }

theorem setMerging (whole : d.Whole) (merging : Bool) : ({ d with merging } : Draft).Whole :=
  { whole with }

theorem setCascade (whole : d.Whole) {cascade : Cascade}
    (tags : ∀ t ∈ cascade.offered, Unbroken t) : ({ d with cascade } : Draft).Whole :=
  { whole with tags }

theorem setPending (whole : d.Whole) {pending : List Text} (comments : ∀ t ∈ pending, Unbroken t) :
    ({ d with pending } : Draft).Whole :=
  { whole with pending := comments }

theorem emit (whole : d.Whole) {e : Event}
    (told : ∀ report ∈ e.diagnostic?.toList, Unbroken report.message) : (d.emit e).Whole where
  scenes := whole.scenes
  taggedLines := whole.taggedLines
  messages := by
    rw [diagnostics_emit]
    exact List.forall_mem_append.mpr ⟨whole.messages, told⟩
  opened := whole.opened
  pending := whole.pending
  levels := whole.levels
  tags := whole.tags

theorem complain (whole : d.Whole) (c : Complaint) (line : Unbroken c.subject) (origin : Origin) :
    (d.complain c origin).Whole :=
  whole.emit (List.forall_mem_singleton.mpr (Complaint.unbroken_message line))

/-! ## Snippets, blocks and scenes -/

theorem freshSnippet (whole : d.Whole) {comments : List Text} (lines : ∀ t ∈ comments, Unbroken t) :
    ∀ t ∈ (d.freshSnippet comments).texts, Unbroken t := by
  have levels : ∀ t ∈ d.levels.comments, Unbroken t := by
    intro t member
    obtain ⟨level, inLevels, inLevel⟩ := Levels.exists_of_mem_comments member
    exact whole.levels level inLevels t inLevel
  simp only [Draft.freshSnippet, Snippet.texts, List.flatMap_nil, List.append_nil]
  exact List.forall_mem_append.mpr ⟨lines, levels⟩

theorem boundary (whole : d.Whole) : d.boundary.Whole := by
  unfold Draft.boundary
  split
  · exact whole.setPending (List.forall_mem_nil _)
  · rename_i o opened
    have was := whole.opened o opened
    have carried := List.forall_mem_append.mpr ⟨Opened.whole_carried was, whole.pending⟩
    refine { whole with opened := fun o' eq => ?_, pending := List.forall_mem_nil _ }
    obtain rfl := Option.some.inj eq
    exact ⟨was.scene, Opened.whole_closedBlock was _, whole.freshSnippet carried⟩

theorem boundaryKeeping (whole : d.Whole) : d.boundaryKeeping.Whole :=
  (whole.setPending (List.forall_mem_nil _)).boundary.setPending whole.pending

theorem close (whole : d.Whole) : d.close.Whole := by
  unfold Draft.close
  split
  · exact whole
  · rename_i o opened
    have scene := Opened.whole_closedScene (whole.opened o opened) d.members
    refine { whole with opened := by simp, scenes := ?_ }
    dsimp only
    split
    · exact whole.scenes
    · exact List.forall_mem_append.mpr ⟨whole.scenes, List.forall_mem_singleton.mpr scene⟩

/-- The open scene is put away, and what the cascade offers in the new one it offered before. -/
theorem beginScene (whole : d.Whole) {id : Text} (line : Unbroken id) (origin : Origin) :
    (d.beginScene id origin).Whole := by
  have document : ∀ t ∈ d.cascade.beginScene.offered, Unbroken t := by
    intro t member
    refine whole.tags t (List.mem_append_right _ ?_)
    simpa [Cascade.offered, Cascade.beginScene] using member
  have began := (whole.close.setCascade document).emit (e := .sceneBegun id) (List.forall_mem_nil _)
  refine { began with opened := fun o eq => ?_, pending := List.forall_mem_nil _ }
  obtain rfl := Option.some.inj eq
  exact ⟨by simpa [Scene.texts] using line, by simpa [Block.texts] using began.pending,
    began.freshSnippet (List.forall_mem_nil _)⟩

theorem beginBlock (whole : d.Whole) {id : Text} (line : Unbroken id) (origin : Origin) :
    (d.beginBlock id origin).Whole := by
  have outer : ∀ t ∈ d.cascade.beginBlock.offered, Unbroken t := fun t member => by
    refine whole.tags t ?_
    simp only [Cascade.offered, Cascade.beginBlock, List.nil_append] at member ⊢
    rw [List.append_assoc]
    exact List.mem_append_right _ member
  have began := (whole.setCascade outer).emit (e := .blockBegun id) (List.forall_mem_nil _)
  unfold Draft.beginBlock
  dsimp only
  split
  · exact began.setPending (List.forall_mem_nil _)
  · rename_i o opened
    have was := began.opened o opened
    refine { began with opened := fun o' eq => ?_, pending := List.forall_mem_nil _ }
    obtain rfl := Option.some.inj eq
    have block : ∀ t ∈ id :: (d.pending ++ []), Unbroken t := by
      simpa using ⟨line, whole.pending⟩
    exact ⟨Opened.whole_closedScene was _, block, began.freshSnippet (List.forall_mem_nil _)⟩

/-! ## Turns of the flow -/

theorem openLevel (whole : d.Whole) (group : Bool) : (d.openLevel group).Whole := by
  have pushed : ({ d with levels := d.levels.push d.pending, pending := [] } : Draft).Whole := by
    refine { whole with pending := List.forall_mem_nil _, levels := ?_ }
    exact List.forall_mem_append.mpr ⟨whole.levels, List.forall_mem_singleton.mpr whole.pending⟩
  unfold Draft.openLevel
  dsimp only
  split
  · refine (emit ?_ (List.forall_mem_nil _)).boundary
    exact { pushed with }
  · exact pushed.boundary

theorem countGroup (whole : d.Whole) : d.countGroup.Whole := by
  refine { whole with opened := fun o' eq => ?_ }
  rw [opened_countGroup, Option.map_eq_some_iff] at eq
  obtain ⟨o, opened, rfl⟩ := eq
  have was := whole.opened o opened
  have counted : ∀ s : Snippet Nat, (d.counted s).texts = s.texts := by
    intro s
    unfold counted
    split <;> rfl
  refine ⟨was.scene, ?_, was.snippet⟩
  simpa only [Block.texts, List.flatMap_map, counted] using was.block

theorem pop (whole : d.Whole) : ({ d with levels := d.levels.pop } : Draft).Whole := by
  refine { whole with levels := ?_ }
  show ∀ level ∈ d.levels.pop.opened, _
  unfold Levels.pop
  dsimp only
  split
  · exact whole.levels
  · exact fun level member => whole.levels level (List.take_subset _ _ member)

theorem closeLevel (whole : d.Whole) : d.closeLevel.Whole := by
  unfold Draft.closeLevel
  dsimp only
  split
  · have left : ({ d with groupDepth := none, merging := true } : Draft).Whole := { whole with }
    have marked := left.note unbroken_mergeMark
    exact (marked.emit (List.forall_mem_nil _)).pop.boundary.countGroup
  · exact whole.pop.boundary

theorem turn (whole : d.Whole) {t : Turn} (lines : ∀ u ∈ t.texts, Unbroken u) :
    (d.turn t).Whole := by
  cases t with
  | opening group => exact whole.openLevel group
  | closing => exact whole.closeLevel
  | speech =>
      simp only [Draft.turn]
      split
      · exact whole.boundaryKeeping
      · exact (whole.setMerging false).boundary
  | choice text =>
      have mark := unbroken_choiceMark (lines text (List.mem_singleton_self text))
      exact ((whole.setMerging true).note mark).boundary
  | gather =>
      simp only [Draft.turn]
      split
      · exact ((whole.setMerging false).note unbroken_mergeMark).boundary
      · exact whole.boundary
  | other => exact (whole.setMerging false).boundary

/-! ## Prose -/

/-- A beat with unbroken texts can be put into the open snippet. -/
theorem put (whole : d.Whole) {o : Opened} (opened : d.opened = some o) {added : Beat}
    (lines : ∀ t ∈ added.texts, Unbroken t) (group : Option Nat) :
    ({ d with
      opened := some
        { o with snippet := { o.snippet with group, beats := o.snippet.beats ++ [added] } }
      pending := [] } : Draft).Whole := by
  have was := whole.opened o opened
  have snippet := was.snippet
  refine { whole with opened := fun o' eq => ?_, pending := List.forall_mem_nil _ }
  obtain rfl := Option.some.inj eq
  refine ⟨was.scene, was.block, ?_⟩
  simp only [Snippet.texts, List.forall_mem_append, List.forall_mem_flatMap,
    List.forall_mem_singleton] at snippet ⊢
  exact ⟨snippet.1, snippet.2, lines⟩

theorem addBeat (whole : d.Whole) {o : Opened} (opened : d.opened = some o) {beat : Beat}
    (lines : ∀ t ∈ beat.texts, Unbroken t) : (d.addBeat o beat).Whole := by
  simp only [Beat.texts, List.forall_mem_cons, List.forall_mem_append] at lines
  obtain ⟨id, text, ⟨-, tags⟩, part⟩ := lines
  have added : ∀ t ∈ ({ beat with
      comments := d.pending, tags := d.cascade.apply beat.tags } : Beat).texts, Unbroken t := by
    simp only [Beat.texts, List.forall_mem_cons, List.forall_mem_append]
    refine ⟨id, text, ⟨whole.pending, fun t member => ?_⟩, part⟩
    exact (Cascade.mem_apply member).elim (tags t) (whole.tags t)
  unfold Draft.addBeat
  dsimp only
  split
  · refine complain ?_ (.missingId beat.text) text beat.origin
    exact (whole.put opened added _).emit (List.forall_mem_nil _)
  · exact (whole.put opened added _).emit (List.forall_mem_nil _)

theorem passBy (whole : d.Whole) (origin : Origin) {tagged : Option Tagged}
    (lines : ∀ t ∈ tagged.elim [] Tagged.texts, Unbroken t) : (d.passBy origin tagged).Whole := by
  have emptied := whole.setPending (List.forall_mem_nil _)
  unfold Draft.passBy
  dsimp only
  split
  · exact emptied
  · rename_i t
    obtain ⟨id, tags⟩ := List.forall_mem_cons.mp lines
    have entry : ∀ u ∈ (TaggedLine.mk t.id (d.cascade.apply t.tags) origin).texts, Unbroken u := by
      refine List.forall_mem_cons.mpr ⟨id, fun u member => ?_⟩
      exact (Cascade.mem_apply member).elim (tags u) (whole.tags u)
    refine emit ?_ (List.forall_mem_nil _)
    exact { emptied with
      taggedLines := List.forall_mem_append.mpr
        ⟨whole.taggedLines, List.forall_mem_singleton.mpr entry⟩ }

theorem whole_beatOf {origin : Origin} {shape : Shape} (lines : ∀ t ∈ shape.texts, Unbroken t) :
    ∀ t ∈ (beatOf origin shape).texts, Unbroken t := by
  cases shape with
  | speech s =>
      simp only [Shape.texts, Speech.texts, List.forall_mem_cons, List.forall_mem_append] at lines
      obtain ⟨speaker, text, id, ⟨qualifier, direction⟩, tags⟩ := lines
      simp only [beatOf, Beat.texts, Part.texts, List.forall_mem_cons, List.forall_mem_append]
      exact ⟨id, text, ⟨List.forall_mem_nil _, tags⟩, speaker, qualifier, direction⟩
  | action a =>
      simp only [Shape.texts, Action.texts, List.forall_mem_cons] at lines
      obtain ⟨text, id, tags⟩ := lines
      simp only [beatOf, Beat.texts, Part.texts, List.forall_mem_cons, List.forall_mem_append]
      exact ⟨id, text, ⟨List.forall_mem_nil _, tags⟩, List.forall_mem_nil _⟩

theorem takeShape (whole : d.Whole) {line : Text} (body : Unbroken line) (origin : Origin)
    {ways : Prose} (lines : ∀ t ∈ ways.texts, Unbroken t) :
    (d.takeShape line origin ways).Whole := by
  obtain ⟨readings, tagged⟩ := List.forall_mem_append.mp lines
  obtain ⟨-, shapes⟩ := List.forall_mem_append.mp readings
  unfold Draft.takeShape
  split
  · exact whole.passBy origin tagged
  · rename_i shape found
    rw [found] at shapes
    split
    · split
      · rename_i o opened
        exact whole.addBeat opened (whole_beatOf shapes)
      · exact whole.passBy origin tagged
    · split
      · exact (whole.complain (.speechOutside line) body origin).passBy origin tagged
      · exact whole.passBy origin tagged

theorem prose (whole : d.Whole) {line : Text} (body : Unbroken line) (origin : Origin)
    {ways : Prose} (lines : ∀ t ∈ ways.texts, Unbroken t) : (d.prose line origin ways).Whole := by
  obtain ⟨d', complained, whole'⟩ : ∃ d' : Draft,
      (if ways.straying && d.cascade.active then d.complain (.contentAfterClause line) origin
        else d) = d' ∧ d'.Whole := by
    refine ⟨_, rfl, ?_⟩
    split
    · exact whole.complain (.contentAfterClause line) body origin
    · exact whole
  unfold Draft.prose
  dsimp only
  rw [complained]
  split
  · rename_i label found
    refine whole'.note (lines label ?_)
    have labelled : ways.label = some label := by
      split at found
      · exact found
      · cases found
    simp [Prose.texts, labelled]
  · exact whole'.takeShape body origin lines

/-! ## Lines -/

theorem play (whole : d.Whole) {line : Text} (body : Unbroken line) (origin : Origin) {role : Role}
    (lines : ∀ t ∈ role.texts, Unbroken t) : (d.play line origin role).Whole := by
  cases role with
  | clause => exact whole.boundary
  | knot id => exact whole.beginScene (lines id (List.mem_singleton_self id)) origin
  | stitch id => exact whole.beginBlock (lines id (List.mem_singleton_self id)) origin
  | comment text => exact whole.note (lines text (List.mem_singleton_self text))
  | prose ways => exact whole.prose body origin lines

theorem take (whole : d.Whole) {line : Text} (body : Unbroken line) (origin : Origin) {kind : Kind}
    (lines : ∀ t ∈ kind.texts, Unbroken t) : (d.take line origin kind).Whole := by
  cases kind with
  | blank => exact whole
  | statement => exact whole
  | tags tokens =>
      refine (whole.setCascade fun t member => ?_).emit (List.forall_mem_nil _)
      exact (Cascade.mem_offered_route member).elim (whole.tags t) (lines t)
  | content turn role =>
      obtain ⟨turns, roles⟩ := List.forall_mem_append.mp lines
      have marked : ({ d with cascade := d.cascade.markContent } : Draft).Whole :=
        whole.setCascade whole.tags
      cases turn with
      | none => exact marked.play body origin roles
      | some turn => exact (marked.turn turns).play body origin roles

/-- **A line leaves a draft whole.** -/
theorem step (whole : d.Whole) {line : SourceLine} (unbroken : Unbroken line.text) :
    (d.step line).Whole := by
  have lines : ∀ t ∈ (Reading.ofLine line.text).texts, Unbroken t :=
    fun t member => unbroken.of_subset (Reading.within_ofLine line.text t member)
  obtain ⟨body, others⟩ := List.forall_mem_cons.mp lines
  obtain ⟨comments, kind⟩ := List.forall_mem_append.mp others
  simp only [Draft.step]
  cases found : (Reading.ofLine line.text).comment with
  | none => exact whole.take body line.origin kind
  | some comment =>
      have noted := whole.note (comments comment (by simp [found]))
      exact noted.take body line.origin kind

end Whole

theorem whole_upTo {lines : List SourceLine} (unbroken : ∀ line ∈ lines, Unbroken line.text) :
    (upTo lines).Whole := by
  induction lines using List.reverseRecOn with
  | nil => exact whole_empty
  | append_singleton rest line ih =>
      obtain ⟨earlier, last⟩ := List.forall_mem_append.mp unbroken
      rw [upTo_concat]
      exact (ih earlier).step (last line (List.mem_singleton_self line))

/-- **The draft of unbroken lines is whole.** -/
theorem whole_ofLines {lines : List SourceLine} (unbroken : ∀ line ∈ lines, Unbroken line.text) :
    (ofLines lines).Whole :=
  (whole_upTo unbroken).close

end Draft

end Beatsheet

/-
# Beatsheet.Proofs.Forest.Dump — dumps line by line

As long as no text of a scene holds a line break, its dump has one line for each scene, block,
snippet and beat, in the order of the script, indented by its depth (`Scene.dump_eq`). A part is
dumped by itself first and indented line by line in the part around it, so each depth is seen to
once: the lines of a part are told apart again in its dump just because none of them is broken.
-/
import Beatsheet.Forest.Dump
import Beatsheet.Proofs.Text.Unbroken

set_option autoImplicit false

namespace Beatsheet

open Text Dump

/-! ## Texts of the forest -/

section Texts

variable {ι κ : Type}

def Part.texts : Part → List Text
  | .line speaker qualifier direction => speaker :: (qualifier.toList ++ direction.toList)
  | .action type => type.toList

/-- All texts of a beat but the path of its origin. -/
def Beat.texts (b : Beat) : List Text :=
  b.id :: b.text :: (b.comments ++ b.tags ++ b.part.texts)

/-- All texts of a snippet but its name and the paths of origins. -/
def Snippet.texts (s : Snippet ι) : List Text :=
  s.comments ++ s.braceComments ++ s.beats.flatMap Beat.texts

def Block.texts (b : Block ι) : List Text :=
  b.id :: (b.comments ++ b.snippets.flatMap Snippet.texts)

def Scene.texts (s : Scene ι) : List Text :=
  s.id :: (s.comments ++ s.blocks.flatMap Block.texts)

@[simp] theorem Snippet.texts_map (f : Snippet ι → κ) (s : Snippet ι) :
    (s.map f).texts = s.texts := rfl

@[simp] theorem Block.texts_map (f : Snippet ι → κ) (b : Block ι) : (b.map f).texts = b.texts := by
  simp [texts, Block.map, List.flatMap_map]

/-- Other names for its snippets leave the other texts of a scene alone. -/
@[simp] theorem Scene.texts_map (f : Snippet ι → κ) (s : Scene ι) : (s.map f).texts = s.texts := by
  simp [texts, Scene.map, List.flatMap_map]

end Texts

/-! ## Outlines -/

def Dump.indent (depth : Nat) (line : Text) : Text :=
  List.replicate depth ' ' ++ line

/-- The first line of a dumped snippet. -/
def Snippet.headline (s : Snippet Text) : Text :=
  header "Snippet".toList s.id "Beats".toList s.beats.length ++
    match s.group, s.groupIndex with
    | some group, some index => " Group:".toList ++ Text.ofNat group ++ '#' :: Text.ofNat index
    | _, _ => []

/-- One line for the snippet, and one for each beat. -/
def Snippet.outline (s : Snippet Text) : List Text :=
  s.headline :: s.beats.map fun beat => indent 4 beat.dump

/-- One line for the block, and those of its snippets. -/
def Block.outline (b : Block Text) : List Text :=
  header "Block".toList b.id "Snippets".toList b.snippets.length ::
    b.snippets.flatMap fun snippet => snippet.outline.map (indent 2)

/-- One line for the scene, and those of its blocks. -/
def Scene.outline (s : Scene Text) : List Text :=
  header "Scene".toList s.id "Blocks".toList s.blocks.length ::
    s.blocks.flatMap fun block => block.outline.map (indent 2)

/-! ## How many lines there are -/

theorem Snippet.length_outline (s : Snippet Text) : s.outline.length = 1 + s.beats.length := by
  rw [outline, List.length_cons, List.length_map, Nat.add_comm]

theorem Block.length_outline (b : Block Text) :
    b.outline.length = 1 + b.snippets.length + (b.snippets.flatMap (·.beats)).length := by
  have each : ∀ snippets : List (Snippet Text),
      (snippets.flatMap fun snippet => snippet.outline.map (indent 2)).length =
        snippets.length + (snippets.flatMap (·.beats)).length := by
    intro snippets
    induction snippets with
    | nil => rfl
    | cons snippet rest ih =>
        simp only [List.flatMap_cons, List.length_append, List.length_map, List.length_cons, ih,
          Snippet.length_outline]
        omega
  rw [outline, List.length_cons, each]
  omega

/-- There is a line for the scene, and one for each block, snippet and beat. -/
theorem Scene.length_outline (s : Scene Text) :
    s.outline.length = 1 + s.blocks.length + s.snippets.length + s.beats.length := by
  have each : ∀ blocks : List (Block Text),
      (blocks.flatMap fun block => block.outline.map (indent 2)).length =
        blocks.length + (blocks.flatMap (·.snippets)).length +
          ((blocks.flatMap (·.snippets)).flatMap (·.beats)).length := by
    intro blocks
    induction blocks with
    | nil => rfl
    | cons block rest ih =>
        simp only [List.flatMap_cons, List.flatMap_append, List.length_append, List.length_map,
          List.length_cons, ih, Block.length_outline]
        omega
  rw [outline, List.length_cons, each, Scene.snippets, Scene.beats, Scene.snippets]
  omega

/-! ## No line is broken -/

/-- Something that is all of one line of a dump. -/
def Dump.IsLine (t : Text) : Prop :=
  Unbroken t ∧ t ≠ []

namespace Dump

theorem unbroken_labelled {label : Text} {value : Option Text} (name : Unbroken label)
    (whole : ∀ t ∈ value.toList, Unbroken t) : Unbroken (labelled label value) := by
  cases value with
  | none => exact unbroken_nil
  | some t => exact unbroken_append.mpr ⟨name, whole t (List.mem_singleton_self t)⟩

theorem unbroken_listed {label start finish : Text} {ts : List Text} (name : Unbroken label)
    (opens : Unbroken start) (closes : Unbroken finish) (whole : ∀ t ∈ ts, Unbroken t) :
    Unbroken (listed label start finish ts) := by
  unfold listed
  split
  · exact unbroken_nil
  · refine unbroken_append.mpr ⟨name, unbroken_flatten.mpr (List.forall_mem_map.mpr ?_)⟩
    intro t member
    simp [opens, closes, whole t member, isBreak]

theorem isLine_header {kind id label : Text} (name : Unbroken kind) (whole : Unbroken id)
    (counted : Unbroken label) (count : Nat) : IsLine (header kind id label count) := by
  constructor
  · simp [header, name, whole, counted, unbroken_ofNat, isBreak]
  · simp [header]

theorem IsLine.indent {t : Text} (line : IsLine t) (depth : Nat) : IsLine (indent depth t) := by
  constructor
  · refine unbroken_append.mpr ⟨fun c member => ?_, line.1⟩
    rw [List.eq_of_mem_replicate member]
    rfl
  · exact List.append_ne_nil_of_right_ne_nil _ line.2

end Dump

theorem Part.unbroken_dump {p : Part} (whole : ∀ t ∈ p.texts, Unbroken t) : Unbroken p.dump := by
  cases p with
  | line speaker qualifier direction =>
      simp only [texts, List.forall_mem_cons, List.forall_mem_append] at whole
      obtain ⟨name, qualified, directed⟩ := whole
      refine unbroken_append.mpr ⟨unbroken_append.mpr ⟨?_, ?_⟩, ?_⟩
      · exact unbroken_append.mpr ⟨by decide, name⟩
      · exact unbroken_labelled (by decide) qualified
      · exact unbroken_labelled (by decide) directed
  | action type => exact unbroken_append.mpr ⟨by decide, unbroken_labelled (by decide) whole⟩

theorem Beat.isLine_dump {b : Beat} (whole : ∀ t ∈ b.texts, Unbroken t) : IsLine b.dump := by
  simp only [texts, List.forall_mem_cons, List.forall_mem_append] at whole
  obtain ⟨id, text, ⟨comments, tags⟩, part⟩ := whole
  have tagged : Unbroken (listed " | Tags:".toList ['#'] [] b.tags) :=
    unbroken_listed (by decide) (by decide) (by decide) tags
  have commented : Unbroken (listed " | Comments:".toList ['\''] ['\''] b.comments) :=
    unbroken_listed (by decide) (by decide) (by decide) comments
  constructor
  · simpa [dump, id, text, Part.unbroken_dump part, isBreak] using ⟨tagged, commented⟩
  · simp [dump]

theorem Snippet.isLine_headline {s : Snippet Text} (name : Unbroken s.id) : IsLine s.headline := by
  have front : IsLine (header "Snippet".toList s.id "Beats".toList s.beats.length) :=
    isLine_header (by decide) name (by decide) s.beats.length
  refine ⟨unbroken_append.mpr ⟨front.1, ?_⟩, List.append_ne_nil_of_left_ne_nil front.2 _⟩
  split
  · simp [unbroken_ofNat, isBreak]
  · exact unbroken_nil

theorem Snippet.isLine_outline {s : Snippet Text} (name : Unbroken s.id)
    (whole : ∀ t ∈ s.texts, Unbroken t) : ∀ line ∈ s.outline, IsLine line := by
  simp only [texts, List.forall_mem_append, List.forall_mem_flatMap] at whole
  refine List.forall_mem_cons.mpr ⟨isLine_headline name, List.forall_mem_map.mpr ?_⟩
  exact fun beat member => (Beat.isLine_dump (whole.2 beat member)).indent 4

theorem Block.isLine_outline {b : Block Text} (names : ∀ s ∈ b.snippets, Unbroken s.id)
    (whole : ∀ t ∈ b.texts, Unbroken t) : ∀ line ∈ b.outline, IsLine line := by
  simp only [texts, List.forall_mem_cons, List.forall_mem_append, List.forall_mem_flatMap] at whole
  obtain ⟨id, -, snippets⟩ := whole
  refine List.forall_mem_cons.mpr ⟨isLine_header (by decide) id (by decide) _, ?_⟩
  refine List.forall_mem_flatMap.mpr fun s member => ?_
  refine List.forall_mem_map.mpr fun line inOutline => ?_
  exact (Snippet.isLine_outline (names s member) (snippets s member) line inOutline).indent 2

theorem Scene.isLine_outline {s : Scene Text} (names : ∀ n ∈ s.snippets, Unbroken n.id)
    (whole : ∀ t ∈ s.texts, Unbroken t) : ∀ line ∈ s.outline, IsLine line := by
  simp only [texts, List.forall_mem_cons, List.forall_mem_append, List.forall_mem_flatMap] at whole
  obtain ⟨id, -, blocks⟩ := whole
  refine List.forall_mem_cons.mpr ⟨isLine_header (by decide) id (by decide) _, ?_⟩
  refine List.forall_mem_flatMap.mpr fun b member => ?_
  refine List.forall_mem_map.mpr fun line inOutline => ?_
  have named : ∀ n ∈ b.snippets, Unbroken n.id :=
    fun n inBlock => names n (List.mem_flatMap.mpr ⟨b, member, inBlock⟩)
  exact (Block.isLine_outline named (blocks b member) line inOutline).indent 2

/-! ## Dumps -/

/-- Where parts are dumped in lines, these are told apart again and indented. -/
theorem Dump.nested_map {α : Type} {parts : List α} {dump : α → Text} (outline : α → List Text)
    (some_ : ∀ a ∈ parts, outline a ≠ []) (whole : ∀ a ∈ parts, ∀ line ∈ outline a, IsLine line)
    (dumped : ∀ a ∈ parts, dump a = join ['\n'] (outline a)) :
    nested (parts.map dump) =
      (parts.flatMap fun a => (outline a).map (indent 2)).flatMap ('\n' :: ·) := by
  have lines : ∀ a ∈ parts, dumpedLines (dump a) = outline a := fun a member => by
    rw [dumped a member, dumpedLines_join (some_ a member) (whole a member)]
  have all : (parts.map dump).flatMap dumpedLines = parts.flatMap outline := by
    rw [List.flatMap_map]
    exact List.flatMap_congr lines
  rw [nested, all, List.flatMap_assoc, List.flatMap_assoc]
  simp only [List.flatMap_map]
  rfl

theorem Snippet.dump_eq (s : Snippet Text) : s.dump = join ['\n'] s.outline := by
  rw [outline, join_cons, List.flatMap_map]
  rfl

theorem Block.dump_eq {b : Block Text} (names : ∀ s ∈ b.snippets, Unbroken s.id)
    (whole : ∀ t ∈ b.texts, Unbroken t) : b.dump = join ['\n'] b.outline := by
  simp only [texts, List.forall_mem_cons, List.forall_mem_append, List.forall_mem_flatMap] at whole
  obtain ⟨-, -, snippets⟩ := whole
  rw [dump, outline, join_cons, nested_map Snippet.outline]
  · exact fun s member => List.cons_ne_nil _ _
  · exact fun s member => Snippet.isLine_outline (names s member) (snippets s member)
  · exact fun s member => s.dump_eq

/-- **The dump of a scene whose texts are unbroken is its outline.** -/
theorem Scene.dump_eq {s : Scene Text} (names : ∀ n ∈ s.snippets, Unbroken n.id)
    (whole : ∀ t ∈ s.texts, Unbroken t) : s.dump = join ['\n'] s.outline := by
  simp only [texts, List.forall_mem_cons, List.forall_mem_append, List.forall_mem_flatMap] at whole
  obtain ⟨-, -, blocks⟩ := whole
  have named : ∀ b ∈ s.blocks, ∀ n ∈ b.snippets, Unbroken n.id :=
    fun b member n inBlock => names n (List.mem_flatMap.mpr ⟨b, member, inBlock⟩)
  rw [dump, outline, join_cons, nested_map Block.outline]
  · exact fun b member => List.cons_ne_nil _ _
  · exact fun b member => Block.isLine_outline (named b member) (blocks b member)
  · exact fun b member => Block.dump_eq (named b member) (blocks b member)

/-- All of these are lines of the dump, in whatever way lines are told apart. -/
theorem Scene.lines_dump {s : Scene Text} (names : ∀ n ∈ s.snippets, Unbroken n.id)
    (whole : ∀ t ∈ s.texts, Unbroken t) :
    Text.lines s.dump = s.outline ∧ dumpedLines s.dump = s.outline := by
  have lines := Scene.isLine_outline names whole
  rw [Scene.dump_eq names whole]
  exact ⟨lines_join (List.cons_ne_nil _ _) fun line member => (lines line member).1,
    dumpedLines_join (List.cons_ne_nil _ _) lines⟩

end Beatsheet

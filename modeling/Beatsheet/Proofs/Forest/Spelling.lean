/-
# Beatsheet.Proofs.Forest.Spelling — scenes are read from every text that spells them

What is printed is one of many texts that hold the same scenes. Another hand may put the members of
an object in another order, add members that mean nothing here, leave out what has a default or
write it down all the same, and spell every token in its own way. Which values hold an origin, a
beat, a snippet, a block or a scene is said part by part (`Written`), and from every text that
spells such a value the scenes are read (`readScenes_of_spells`).
-/
import Beatsheet.Proofs.Forest.Json
import Beatsheet.Proofs.Json.Parse
import Mathlib

set_option autoImplicit false

namespace Beatsheet

open Json (find?)

/-! ## Members -/

namespace Json

section Members

variable {members : List (Text × Json)} {name : Text}

def Distinct (members : List (Text × Json)) : Prop :=
  (members.map Prod.fst).Nodup

instance (members : List (Text × Json)) : Decidable (Distinct members) :=
  inferInstanceAs (Decidable (List.Nodup _))

theorem find?_of_not_mem (missing : name ∉ members.map Prod.fst) : find? members name = none := by
  induction members using List.reverseRecOn with
  | nil => rfl
  | append_singleton members m ih =>
      rw [List.map_append, List.mem_append, not_or, List.map_singleton, List.mem_singleton]
        at missing
      rw [find?_concat, if_neg missing.2, ih missing.1]

/-- If no name is repeated, each member is found. -/
theorem find?_of_mem (distinct : Distinct members) {value : Json}
    (member : (name, value) ∈ members) : find? members name = some value := by
  induction members using List.reverseRecOn with
  | nil => cases member
  | append_singleton members m ih =>
      rw [Distinct, List.map_append, List.nodup_append] at distinct
      obtain ⟨front, -, apart⟩ := distinct
      rw [find?_concat]
      rcases List.mem_append.mp member with early | last
      · have other : name ≠ m.1 :=
          apart name (List.mem_map_of_mem (f := Prod.fst) early) m.1 (by simp)
        rw [if_neg other, ih front early]
      · rw [← List.mem_singleton.mp last, if_pos rfl]

end Members

end Json

/-! ## Forms -/

/-- The values in which something of a type may be written. -/
abbrev Form (α : Type) := α → Json → Prop

namespace Form

variable {α : Type}

def text : Form Text := fun t j => j = .str t

def number : Form Nat := fun n j => j = .int n

/-- Where there is nothing, null may be written. -/
inductive Optional (form : Form α) : Form (Option α)
  | none : Optional form none .null
  | some {a : α} {j : Json} (written : form a j) : Optional form (some a) j

inductive Items (form : Form α) : Form (List α)
  | arr {as : List α} {js : List Json} (each : List.Forall₂ form as js) : Items form as (.arr js)

/-- An object has a member of the name, in which the value is written. -/
def Has (form : Form α) (members : List (Text × Json)) (name : String) (a : α) : Prop :=
  ∃ j, (name.toList, j) ∈ members ∧ form a j

/-- The same, or the object has no such member and the value is the one that it then has. -/
def HasOr (form : Form α) (absent : α) (members : List (Text × Json)) (name : String) (a : α) :
    Prop :=
  form.Has members name a ∨ name.toList ∉ members.map Prod.fst ∧ a = absent

/-! ## Reading forms -/

/-- Every form of the value is read as the value. -/
def ReadBy (form : Form α) (decoder : Decoder α) (a : α) : Prop :=
  ∀ j, form a j → decoder j = .ok a

theorem readBy_text (t : Text) : text.ReadBy Decoder.text t := by
  rintro j rfl
  rfl

theorem readBy_number {limit n : Nat} (type : Text) (fits : n < limit) :
    number.ReadBy (Decoder.word limit type) n := by
  rintro j rfl
  exact Decoder.word_int type fits

variable {form : Form α} {decoder : Decoder α}

/-- Null must not be read as something, since it is read as nothing. -/
theorem readBy_optional {value : Option α} (read : ∀ a ∈ value, form.ReadBy decoder a)
    (solid : ∀ a ∈ value, ¬ form a .null) :
    (Optional form).ReadBy (Decoder.optional decoder) value := by
  intro j written
  cases written with
  | none => rfl
  | @some a j written =>
      have found := read a rfl j written
      cases j with
      | null => exact absurd written (solid a rfl)
      | bool | int | float | str | arr | obj => simp only [Decoder.optional, found, Except.map]

theorem readBy_items {as : List α} (each : ∀ a ∈ as, form.ReadBy decoder a) :
    (Items form).ReadBy (Decoder.list decoder) as := by
  rintro j ⟨written⟩
  induction written with
  | nil => rfl
  | @cons a j as js first others ih =>
      have item := each a List.mem_cons_self j first
      have rest := ih fun b member => each b (List.mem_cons_of_mem _ member)
      simp only [Decoder.list, List.mapM_cons, item] at rest ⊢
      rw [rest]
      rfl

section Fields

variable {members : List (Text × Json)} {name : String} {a : α}

theorem Has.nth {j : Json} (i : Nat) (there : members[i]? = some (name.toList, j))
    (written : form a j) : form.Has members name a :=
  ⟨j, List.mem_of_getElem? there, written⟩

theorem Has.finds (has : form.Has members name a) (distinct : Json.Distinct members)
    (read : form.ReadBy decoder a) {absent : Option α} :
    Field.Finds ⟨name.toList, decoder, absent⟩ members a := by
  obtain ⟨j, member, written⟩ := has
  exact Field.finds_of_some j (Json.find?_of_mem distinct member) (read j written)

theorem HasOr.finds {absent : α} (has : form.HasOr absent members name a)
    (distinct : Json.Distinct members) (read : form.ReadBy decoder a) :
    Field.Finds ⟨name.toList, decoder, some absent⟩ members a := by
  rcases has with has | ⟨missing, rfl⟩
  · exact has.finds distinct read
  · exact Field.finds_of_none (Json.find?_of_not_mem missing)

end Fields

end Form

open Form (Optional Items readBy_text readBy_number readBy_items)

/-! ## Texts and group numbers -/

theorem Form.readBy_texts (ts : List Text) : (Items text).ReadBy (Decoder.list Decoder.text) ts :=
  readBy_items fun t _ => readBy_text t

theorem Form.readBy_optionalText (t : Option Text) :
    (Optional text).ReadBy (Decoder.optional Decoder.text) t :=
  readBy_optional (fun t _ => readBy_text t) nofun

theorem Form.readBy_groupNumber {number_ : Option Nat} (fits : ∀ n ∈ number_, n < Decoder.limit32) :
    (Optional number).ReadBy (Decoder.optional (Decoder.word Decoder.limit32 "u32".toList))
      number_ :=
  readBy_optional (fun n known => readBy_number _ (fits n known)) nofun

open Form (readBy_texts readBy_optionalText readBy_groupNumber)

/-! ## Origins and beats -/

/-- Both members of an origin are always written. -/
inductive Origin.Written (o : Origin) : Json → Prop
  | obj {members : List (Text × Json)} (distinct : Json.Distinct members)
      (path : Form.text.Has members "source_path" o.path)
      (line : Form.number.Has members "line_number" o.line) : Written o (.obj members)

theorem Origin.readBy_written {o : Origin} (sized : o.Sized) (tooLong : Nat → DataFault) :
    Form.ReadBy Origin.Written (recordType.decode tooLong build) o := by
  rintro _ ⟨distinct, path, line⟩
  refine RecordType.decode_obj (build_of_finds ?_ ?_)
  · exact path.finds distinct (readBy_text _)
  · exact line.finds distinct (readBy_number _ sized)

namespace Beat

/-- The members that all beats have. -/
structure Shared (b : Beat) (members : List (Text × Json)) : Prop where
  distinct : Json.Distinct members
  id : Form.text.HasOr [] members "id" b.id
  comments : (Items Form.text).HasOr [] members "comments" b.comments
  tags : (Items Form.text).HasOr [] members "tags" b.tags
  origin : Form.HasOr Origin.Written {} members "origin" b.origin
  text : Form.text.Has members "text" b.text

/-- A beat names its kind, and of the other members only those of its kind mean something. -/
inductive Written (b : Beat) : Json → Prop
  | line {members : List (Text × Json)} {speaker : Text} {qualifier direction : Option Text}
      (part : b.part = .line speaker qualifier direction) (shared : b.Shared members)
      (kind : Form.text.Has members "beat" "line".toList)
      (speakerId : Form.text.Has members "speaker_id" speaker)
      (qualifier : (Optional Form.text).HasOr none members "qualifier" qualifier)
      (direction : (Optional Form.text).HasOr none members "direction" direction) :
      Written b (.obj members)
  | action {members : List (Text × Json)} {type : Option Text} (part : b.part = .action type)
      (shared : b.Shared members) (kind : Form.text.Has members "beat" "action".toList)
      (type : (Optional Form.text).HasOr none members "type" type) : Written b (.obj members)

variable {b : Beat} {members : List (Text × Json)}

theorem Shared.build (shared : b.Shared members) (sized : b.Sized) :
    buildShared (b.part, b.text) (.named (Json.canonical members)) = .ok b := by
  refine buildShared_of_finds ?_ ?_ ?_ ?_
  · exact shared.id.finds shared.distinct (readBy_text _)
  · exact shared.comments.finds shared.distinct (readBy_texts _)
  · exact shared.tags.finds shared.distinct (readBy_texts _)
  · exact shared.origin.finds shared.distinct (Origin.readBy_written sized _)

theorem readBy_written (sized : b.Sized) : Form.ReadBy Beat.Written ofJson b := by
  intro j written
  cases written with
  | @line members speaker qualifier direction part shared kind speakerId qualified directed =>
      obtain ⟨_, named, rfl⟩ := kind
      refine ofJson_obj "line".toList .line (Json.find?_of_mem shared.distinct named) rfl ?_
        (shared.build sized)
      rw [part]
      refine buildOwn_line ?_ ?_ ?_ ?_
      · exact speakerId.finds shared.distinct (readBy_text _)
      · exact qualified.finds shared.distinct (readBy_optionalText _)
      · exact directed.finds shared.distinct (readBy_optionalText _)
      · exact shared.text.finds shared.distinct (readBy_text _)
  | @action members type part shared kind typed =>
      obtain ⟨_, named, rfl⟩ := kind
      refine ofJson_obj "action".toList .action (Json.find?_of_mem shared.distinct named) rfl ?_
        (shared.build sized)
      rw [part]
      refine buildOwn_action ?_ ?_
      · exact typed.finds shared.distinct (readBy_optionalText _)
      · exact shared.text.finds shared.distinct (readBy_text _)

end Beat

/-! ## Snippets, blocks and scenes -/

/-- A snippet must have an identifier and its beats. -/
inductive Snippet.Written (s : Snippet Text) : Json → Prop
  | obj {members : List (Text × Json)} (distinct : Json.Distinct members)
      (id : Form.text.Has members "id" s.id)
      (comments : (Items Form.text).HasOr [] members "comments" s.comments)
      (braceComments : (Items Form.text).HasOr [] members "brace_comments" s.braceComments)
      (group : (Optional Form.number).HasOr none members "group" s.group)
      (groupIndex : (Optional Form.number).HasOr none members "group_index" s.groupIndex)
      (groupCount : (Optional Form.number).HasOr none members "group_count" s.groupCount)
      (origin : Form.HasOr Origin.Written {} members "origin" s.origin)
      (beats : (Items Beat.Written).Has members "beats" s.beats) : Written s (.obj members)

theorem Snippet.readBy_written {s : Snippet Text} (sized : s.Sized) :
    Form.ReadBy Snippet.Written ofJson s := by
  rintro _ ⟨distinct, id, comments, braceComments, group, groupIndex, groupCount, origin, beats⟩
  refine RecordType.decode_obj (build_of_finds ?_ ?_ ?_ ?_ ?_ ?_ ?_ ?_)
  · exact id.finds distinct (readBy_text _)
  · exact comments.finds distinct (readBy_texts _)
  · exact braceComments.finds distinct (readBy_texts _)
  · exact group.finds distinct (readBy_groupNumber sized.group)
  · exact groupIndex.finds distinct (readBy_groupNumber sized.groupIndex)
  · exact groupCount.finds distinct (readBy_groupNumber sized.groupCount)
  · exact origin.finds distinct (Origin.readBy_written sized.origin _)
  · exact beats.finds distinct
      (readBy_items fun b member => Beat.readBy_written (sized.beats b member))

/-- A block need not have an identifier. -/
inductive Block.Written (b : Block Text) : Json → Prop
  | obj {members : List (Text × Json)} (distinct : Json.Distinct members)
      (id : Form.text.HasOr [] members "id" b.id)
      (comments : (Items Form.text).HasOr [] members "comments" b.comments)
      (origin : Form.HasOr Origin.Written {} members "origin" b.origin)
      (snippets : (Items Snippet.Written).Has members "snippets" b.snippets) :
      Written b (.obj members)

theorem Block.readBy_written {b : Block Text} (sized : b.Sized) :
    Form.ReadBy Block.Written ofJson b := by
  rintro _ ⟨distinct, id, comments, origin, snippets⟩
  refine RecordType.decode_obj (build_of_finds ?_ ?_ ?_ ?_)
  · exact id.finds distinct (readBy_text _)
  · exact comments.finds distinct (readBy_texts _)
  · exact origin.finds distinct (Origin.readBy_written sized.origin _)
  · exact snippets.finds distinct
      (readBy_items fun s member => Snippet.readBy_written (sized.snippets s member))

inductive Scene.Written (s : Scene Text) : Json → Prop
  | obj {members : List (Text × Json)} (distinct : Json.Distinct members)
      (id : Form.text.Has members "id" s.id)
      (comments : (Items Form.text).HasOr [] members "comments" s.comments)
      (origin : Form.HasOr Origin.Written {} members "origin" s.origin)
      (blocks : (Items Block.Written).Has members "blocks" s.blocks) : Written s (.obj members)

theorem Scene.readBy_written {s : Scene Text} (sized : s.Sized) :
    Form.ReadBy Scene.Written ofJson s := by
  rintro _ ⟨distinct, id, comments, origin, blocks⟩
  refine RecordType.decode_obj (build_of_finds ?_ ?_ ?_ ?_)
  · exact id.finds distinct (readBy_text _)
  · exact comments.finds distinct (readBy_texts _)
  · exact origin.finds distinct (Origin.readBy_written sized.origin _)
  · exact blocks.finds distinct
      (readBy_items fun b member => Block.readBy_written (sized.blocks b member))

/-! ## Lists of scenes -/

/-- Scenes are written as a list, or as the member `scenes` of an object. -/
inductive ScenesWritten (scenes : List (Scene Text)) : Json → Prop
  | bare {j : Json} (each : Items Scene.Written scenes j) : ScenesWritten scenes j
  | member {members : List (Text × Json)} (distinct : Json.Distinct members)
      (has : (Items Scene.Written).Has members "scenes" scenes) :
      ScenesWritten scenes (.obj members)

theorem readBy_scenesWritten {scenes : List (Scene Text)} (sized : ∀ s ∈ scenes, s.Sized) :
    Form.ReadBy ScenesWritten scenesOfJson scenes := by
  have list : (Items Scene.Written).ReadBy (Decoder.list Scene.ofJson) scenes :=
    readBy_items fun s member => Scene.readBy_written (sized s member)
  intro j written
  cases written with
  | bare each =>
      cases each with
      | arr each => exact list _ (.arr each)
  | member distinct has =>
      obtain ⟨j, member, each⟩ := has
      have found := Json.find?_of_mem distinct member
      rw [Json.find?] at found
      simp only [scenesOfJson, Extraction.scenesName, found, list j each]

/-- **Scenes are read from every text that spells them**, however its tokens are spelled and its
members are ordered, with other members among them and with or without what has a default. -/
theorem readScenes_of_spells {scenes : List (Scene Text)} (sized : ∀ s ∈ scenes, s.Sized)
    {t : Text} {j : Json} (spells : Json.Spells (Json.depthLimit - 1) t j)
    (written : ScenesWritten scenes j) : readScenes t = .ok scenes :=
  readText_of_parse ((Json.parse_eq_ok_iff t j).mpr spells)
    (readBy_scenesWritten sized j written)

/-! ## Poles -/

/-- Scenes with a character of four bytes, and fields that have their defaults and that have not. -/
def rewrittenScenes : List (Scene Text) := [
  { id := "Knöt".toList
    origin := ⟨['a'], 3⟩
    blocks := [
      { comments := ["hi".toList]
        snippets := [
          { id := ['s']
            group := some 2
            beats := [
              { part := .line "FRED".toList none (some "low".toList), text := ['😀'] },
              { id := ['b'], part := .action none, text := [] }] }] }] }]

/-- The same scenes in another hand. -/
def rewrittenText : Text :=
  "\x7b \"note\" :[-1 ,\x7b\"a\":null\x7d],\n\"scenes\":\t[ \x7b\"blocks\": [\x7b".toList ++
  "\"comments\":[\"h\\u0069\"],\"snippets\":[\x7b\"beats\":[\x7b\"text\":".toList ++
  "\"\\uD83D\\ude00\",\"speaker_id\":\"FRED\",\"type\":7,\"be\\u0061t\":\"line\",".toList ++
  "\"direction\":\"low\",\"qualifier\":null\x7d ,\x7b\"beat\":\"action\",\"id\":\"b\",".toList ++
  "\"text\":\"\",\"tags\":[ ]\x7d],\"group\":2,\"id\":\"s\"\x7d]\x7d],\"origin\":".toList ++
  "\x7b\"line_number\": 3,\"z\":[],\"source_path\":\"a\"\x7d,".toList ++
  "\"id\":\"Kn\\u00F6t\"\x7d ]\x7d\r\n".toList

def rewrittenLine : Json := .obj [
  ("text".toList, .str ['😀']), ("speaker_id".toList, .str "FRED".toList),
  ("type".toList, .int 7), ("beat".toList, .str "line".toList),
  ("direction".toList, .str "low".toList), ("qualifier".toList, .null)]

def rewrittenAction : Json := .obj [
  ("beat".toList, .str "action".toList), ("id".toList, .str ['b']), ("text".toList, .str []),
  ("tags".toList, .arr [])]

def rewrittenSnippet : Json := .obj [
  ("beats".toList, .arr [rewrittenLine, rewrittenAction]), ("group".toList, .int 2),
  ("id".toList, .str ['s'])]

def rewrittenJson : Json := .obj [
  ("note".toList, .arr [.int (-1), .obj [(['a'], .null)]]),
  ("scenes".toList, .arr [.obj [
    ("blocks".toList, .arr [.obj [
      ("comments".toList, .arr [.str "hi".toList]),
      ("snippets".toList, .arr [rewrittenSnippet])]]),
    ("origin".toList, .obj [
      ("line_number".toList, .int 3), (['z'], .arr []), ("source_path".toList, .str ['a'])]),
    ("id".toList, .str "Knöt".toList)]])]

set_option maxRecDepth 4000 in
theorem parse_rewrittenText : Json.parse rewrittenText = .ok rewrittenJson := by
  cbv

theorem written_rewrittenLine : Beat.Written
    { part := .line "FRED".toList none (some "low".toList), text := ['😀'] } rewrittenLine := by
  refine .line rfl ⟨by decide, ?_, ?_, ?_, ?_, ?_⟩ ?_ ?_ ?_ ?_
  · exact .inr ⟨by decide, rfl⟩
  · exact .inr ⟨by decide, rfl⟩
  · exact .inr ⟨by decide, rfl⟩
  · exact .inr ⟨by decide, rfl⟩
  · exact .nth 0 rfl rfl
  · exact .nth 3 rfl rfl
  · exact .nth 1 rfl rfl
  · exact .inl (.nth 5 rfl .none)
  · exact .inl (.nth 4 rfl (.some rfl))

theorem written_rewrittenAction :
    Beat.Written { id := ['b'], part := .action none, text := [] } rewrittenAction := by
  refine .action rfl ⟨by decide, ?_, ?_, ?_, ?_, ?_⟩ ?_ ?_
  · exact .inl (.nth 1 rfl rfl)
  · exact .inr ⟨by decide, rfl⟩
  · exact .inl (.nth 3 rfl (.arr .nil))
  · exact .inr ⟨by decide, rfl⟩
  · exact .nth 2 rfl rfl
  · exact .nth 0 rfl rfl
  · exact .inr ⟨by decide, rfl⟩

theorem written_rewrittenSnippet : Snippet.Written
    { id := ['s']
      group := some 2
      beats := [
        { part := .line "FRED".toList none (some "low".toList), text := ['😀'] },
        { id := ['b'], part := .action none, text := [] }] } rewrittenSnippet := by
  refine .obj (by decide) ?_ ?_ ?_ ?_ ?_ ?_ ?_ ?_
  · exact .nth 2 rfl rfl
  · exact .inr ⟨by decide, rfl⟩
  · exact .inr ⟨by decide, rfl⟩
  · exact .inl (.nth 1 rfl (.some rfl))
  · exact .inr ⟨by decide, rfl⟩
  · exact .inr ⟨by decide, rfl⟩
  · exact .inr ⟨by decide, rfl⟩
  · exact .nth 0 rfl (.arr (.cons written_rewrittenLine (.cons written_rewrittenAction .nil)))

theorem scenesWritten_rewritten : ScenesWritten rewrittenScenes rewrittenJson := by
  refine .member (by decide) (.nth 1 rfl (.arr (.cons ?scene .nil)))
  refine .obj (by decide) (.nth 2 rfl rfl) (.inr ⟨by decide, rfl⟩) (.inl (.nth 1 rfl ?origin))
    (.nth 0 rfl (.arr (.cons ?block .nil)))
  case origin => exact .obj (by decide) (.nth 2 rfl rfl) (.nth 0 rfl rfl)
  case block =>
    refine .obj (by decide) (.inr ⟨by decide, rfl⟩) (.inl (.nth 0 rfl (.arr (.cons rfl .nil))))
      (.inr ⟨by decide, rfl⟩) (.nth 1 rfl (.arr (.cons written_rewrittenSnippet .nil)))

theorem readScenes_of_spells_rewritten :
    (∀ s ∈ rewrittenScenes, s.Sized) ∧
      Json.Spells (Json.depthLimit - 1) rewrittenText rewrittenJson ∧
      ScenesWritten rewrittenScenes rewrittenJson ∧
      readScenes rewrittenText = .ok rewrittenScenes :=
  have sized : ∀ s ∈ rewrittenScenes, s.Sized := by decide
  have spells := (Json.parse_eq_ok_iff _ _).mp parse_rewrittenText
  ⟨sized, spells, scenesWritten_rewritten,
    readScenes_of_spells sized spells scenesWritten_rewritten⟩

end Beatsheet

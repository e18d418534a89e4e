/-
# Beatsheet.Proofs.Forest.Json — extractions are read back

What is written of an extraction is read back as the same extraction, and as the same scenes
(`readText_print`). For each part there are two facts. Its value is `Exact`, so it survives being a
text; and the decoder of the part gives it back, since each field finds what was written for it or,
where that was left out, has it as its default. All that is asked of an extraction is that its
numbers fit: lines have 64 bits, the numbers of groups 32 (`Sized`). Texts may be any texts.
-/
import Beatsheet.Proofs.Json.Record
import Beatsheet.Proofs.Json.Value
import Mathlib.Tactic.MkIffOfInductiveProp

set_option autoImplicit false

namespace Beatsheet

open Json (Exact always unlessEmpty ifPresent)

/-! ## Members -/

namespace Json

/-- The values of all members are exact. -/
def AllExact (depth : Nat) (members : List (Text × Json)) : Prop :=
  ∀ m ∈ members, Exact depth m.2

section AllExact

variable {depth : Nat} (name : String)

theorem AllExact.obj {members : List (Text × Json)} (each : AllExact depth members) :
    Exact (depth + 1) (.obj members) :=
  Exact.obj each

theorem AllExact.append {xs ys : List (Text × Json)} (first : AllExact depth xs)
    (second : AllExact depth ys) : AllExact depth (xs ++ ys) :=
  List.forall_mem_append.mpr ⟨first, second⟩

theorem allExact_always {value : Json} (exact_ : Exact depth value) :
    AllExact depth (always name value) :=
  List.forall_mem_singleton.mpr exact_

theorem allExact_ifPresent {value : Option Json} (exact_ : ∀ j ∈ value, Exact depth j) :
    AllExact depth (ifPresent name value) := by
  cases value with
  | none => exact List.forall_mem_nil _
  | some value => exact allExact_always name (exact_ value rfl)

theorem allExact_unlessEmpty (ts : List Text) : AllExact (depth + 1) (unlessEmpty name ts) := by
  unfold unlessEmpty
  split
  · exact List.forall_mem_nil _
  · exact allExact_always name (.arr (List.forall_mem_map.mpr fun t _ => .str depth t))

/-- A list of values is exact if each is. -/
theorem exact_arr_map {α : Type} {encode : α → Json} {as : List α}
    (each : ∀ a ∈ as, Exact depth (encode a)) : Exact (depth + 1) (.arr (as.map encode)) :=
  .arr (List.forall_mem_map.mpr each)

end AllExact

end Json

open Json (allExact_always allExact_ifPresent allExact_unlessEmpty exact_arr_map)

/-! ## Origins -/

namespace Origin

/-- The number of the line has 64 bits. -/
def Sized (o : Origin) : Prop :=
  o.line < Decoder.limit64

instance (o : Origin) : Decidable o.Sized :=
  inferInstanceAs (Decidable (_ < _))

variable {o : Origin} {members : List (Text × Json)}

theorem exact_toJson (sized : o.Sized) (depth : Nat) : Exact (depth + 1) o.toJson := by
  refine Json.AllExact.obj ?_
  repeat' apply Json.AllExact.append
  · exact allExact_always _ (.str depth o.path)
  · exact allExact_always _ (.nat depth (Nat.le_of_lt_succ sized))

theorem build_of_finds (path : pathField.Finds members o.path)
    (line : lineField.Finds members o.line) : build (.named (Json.canonical members)) = .ok o := by
  simp only [build, path _ _, line _ _]
  rfl

theorem decode_toJson (sized : o.Sized) (tooLong : Nat → DataFault) :
    recordType.decode tooLong build o.toJson = .ok o := by
  refine RecordType.decode_obj (build_of_finds ?_ ?_)
  · exact Field.finds_text (by simp)
  · exact Field.finds_of_some (.int o.line) (by simp) (Decoder.word_int _ sized)

end Origin

/-! ## Beats -/

namespace Beat

def Sized (b : Beat) : Prop :=
  b.origin.Sized

instance (b : Beat) : Decidable b.Sized :=
  inferInstanceAs (Decidable b.origin.Sized)

variable {b : Beat} {members : List (Text × Json)}

theorem exact_toJson (sized : b.Sized) (depth : Nat) : Exact (depth + 2) b.toJson := by
  have optional : ∀ t : Option Text, ∀ j ∈ t.map Json.str, Exact (depth + 1) j := by
    intro t j member
    obtain ⟨t, -, rfl⟩ := Option.map_eq_some_iff.mp member
    exact .str _ t
  have shared : Json.AllExact (depth + 1)
      (always "id" (.str b.id) ++ unlessEmpty "comments" b.comments ++ unlessEmpty "tags" b.tags ++
        always "origin" b.origin.toJson) := by
    refine .append (.append (.append ?_ ?_) ?_) ?_
    · exact allExact_always _ (.str _ b.id)
    · exact allExact_unlessEmpty _ b.comments
    · exact allExact_unlessEmpty _ b.tags
    · exact allExact_always _ (Origin.exact_toJson sized depth)
  unfold toJson
  cases b.part with
  | line speaker qualifier direction =>
      refine Json.AllExact.obj ?_
      refine .append (.append (.append (.append (.append ?_ shared) ?_) ?_) ?_) ?_
      · exact allExact_always _ (.str _ "line".toList)
      · exact allExact_always _ (.str _ speaker)
      · exact allExact_ifPresent _ (optional qualifier)
      · exact allExact_ifPresent _ (optional direction)
      · exact allExact_always _ (.str _ b.text)
  | action type =>
      refine Json.AllExact.obj ?_
      refine .append (.append (.append ?_ shared) ?_) ?_
      · exact allExact_always _ (.str _ "action".toList)
      · exact allExact_ifPresent _ (optional type)
      · exact allExact_always _ (.str _ b.text)

theorem buildOwn_line {speaker : Text} {qualifier direction : Option Text} {text : Text}
    (findsSpeaker : speakerField.Finds members speaker)
    (findsQualifier : qualifierField.Finds members qualifier)
    (findsDirection : directionField.Finds members direction)
    (findsText : textField.Finds members text) :
    buildOwn .line (.named (Json.canonical members)) =
      .ok (.line speaker qualifier direction, text) := by
  simp only [buildOwn, findsSpeaker _ _, findsQualifier _ _, findsDirection _ _, findsText _ _]
  rfl

theorem buildOwn_action {type : Option Text} {text : Text}
    (findsType : typeField.Finds members type) (findsText : textField.Finds members text) :
    buildOwn .action (.named (Json.canonical members)) = .ok (.action type, text) := by
  simp only [buildOwn, findsType _ _, findsText _ _]
  rfl

theorem buildShared_of_finds (id : idField.Finds members b.id)
    (comments : commentsField.Finds members b.comments) (tags : tagsField.Finds members b.tags)
    (origin : originField.Finds members b.origin) :
    buildShared (b.part, b.text) (.named (Json.canonical members)) = .ok b := by
  simp only [buildShared, id _ _, comments _ _, tags _ _, origin _ _]
  rfl

/-- Once its variant is known, a beat is built from its own fields and the shared ones. -/
theorem ofJson_obj (name : Text) (variant : Variant)
    (told : Json.find? members variantName = some (.str name))
    (known : Variant.ofJson (.str name) = .ok variant)
    (own : buildOwn variant (.named (Json.canonical members)) = .ok (b.part, b.text))
    (shared : buildShared (b.part, b.text) (.named (Json.canonical members)) = .ok b) :
    ofJson (.obj members) = .ok b := by
  rw [Json.find?] at told
  simp only [ofJson, told, known, own, shared, bind, Except.bind, Record.settle]

theorem ofJson_toJson (sized : b.Sized) : ofJson b.toJson = .ok b := by
  have inside := Origin.decode_toJson sized (.tooLongInside · 2)
  obtain ⟨id, comments, tags, origin, part, text⟩ := b
  cases part with
  | line speaker qualifier direction =>
      refine ofJson_obj "line".toList .line (by simp [variantName]) rfl
        (buildOwn_line ?_ ?_ ?_ ?_) (buildShared_of_finds ?_ ?_ ?_ ?_)
      · exact Field.finds_text (by simp)
      · exact Field.finds_optionalText (by simp)
      · exact Field.finds_optionalText (by simp)
      · exact Field.finds_text (by simp)
      · exact Field.finds_text (by simp)
      · exact Field.finds_texts (by simp)
      · exact Field.finds_texts (by simp)
      · exact Field.finds_of_some origin.toJson (by simp) inside
  | action type =>
      refine ofJson_obj "action".toList .action (by simp [variantName]) rfl
        (buildOwn_action ?_ ?_) (buildShared_of_finds ?_ ?_ ?_ ?_)
      · exact Field.finds_optionalText (by simp)
      · exact Field.finds_text (by simp)
      · exact Field.finds_text (by simp)
      · exact Field.finds_texts (by simp)
      · exact Field.finds_texts (by simp)
      · exact Field.finds_of_some origin.toJson (by simp) inside

end Beat

/-! ## Snippets, blocks and scenes -/

section Forest

variable {members : List (Text × Json)}

namespace Snippet

variable {ι : Type} {s : Snippet Text}

/-- The numbers of the group have 32 bits, and all lines have numbers of 64 bits. -/
@[mk_iff]
structure Sized (s : Snippet ι) : Prop where
  group : ∀ n ∈ s.group, n < Decoder.limit32
  groupIndex : ∀ n ∈ s.groupIndex, n < Decoder.limit32
  groupCount : ∀ n ∈ s.groupCount, n < Decoder.limit32
  origin : s.origin.Sized
  beats : ∀ b ∈ s.beats, b.Sized

instance (s : Snippet ι) : Decidable s.Sized :=
  decidable_of_iff _ (sized_iff s).symm

theorem exact_toJson (sized : s.Sized) (depth : Nat) : Exact (depth + 4) s.toJson := by
  have number : ∀ n : Option Nat, (∀ k ∈ n, k < Decoder.limit32) →
      ∀ j ∈ n.map fun k : Nat => Json.int k, Exact (depth + 3) j := by
    intro n fits j member
    obtain ⟨k, known, rfl⟩ := Option.map_eq_some_iff.mp member
    exact .nat _ (Nat.le_of_lt (Nat.lt_trans (fits k known) (by decide)))
  refine Json.AllExact.obj ?_
  repeat' apply Json.AllExact.append
  · exact allExact_always _ (.str _ s.id)
  · exact allExact_unlessEmpty _ s.comments
  · exact allExact_unlessEmpty _ s.braceComments
  · exact allExact_ifPresent _ (number _ sized.group)
  · exact allExact_ifPresent _ (number _ sized.groupIndex)
  · exact allExact_ifPresent _ (number _ sized.groupCount)
  · exact allExact_always _ (Origin.exact_toJson sized.origin _)
  · refine allExact_always _ (exact_arr_map fun b member => ?_)
    exact Beat.exact_toJson (sized.beats b member) depth

theorem build_of_finds (id : idField.Finds members s.id)
    (comments : commentsField.Finds members s.comments)
    (braceComments : braceCommentsField.Finds members s.braceComments)
    (group : groupField.Finds members s.group)
    (groupIndex : groupIndexField.Finds members s.groupIndex)
    (groupCount : groupCountField.Finds members s.groupCount)
    (origin : Origin.field.Finds members s.origin) (beats : beatsField.Finds members s.beats) :
    build (.named (Json.canonical members)) = .ok s := by
  simp only [build, id _ _, comments _ _, braceComments _ _, group _ _, groupIndex _ _,
    groupCount _ _, origin _ _, beats _ _]
  rfl

theorem ofJson_toJson (sized : s.Sized) : ofJson s.toJson = .ok s := by
  refine RecordType.decode_obj (build_of_finds ?_ ?_ ?_ ?_ ?_ ?_ ?_ ?_)
  · exact Field.finds_text (by simp)
  · exact Field.finds_texts (by simp)
  · exact Field.finds_texts (by simp)
  · exact Field.finds_groupNumber (by simp) sized.group
  · exact Field.finds_groupNumber (by simp) sized.groupIndex
  · exact Field.finds_groupNumber (by simp) sized.groupCount
  · exact Field.finds_of_some s.origin.toJson (by simp)
      (Origin.decode_toJson sized.origin _)
  · exact Field.finds_of_some (.arr (s.beats.map Beat.toJson)) (by simp)
      (Decoder.list_map fun b member => Beat.ofJson_toJson (sized.beats b member))

end Snippet

namespace Block

variable {ι : Type} {b : Block Text}

@[mk_iff]
structure Sized (b : Block ι) : Prop where
  origin : b.origin.Sized
  snippets : ∀ s ∈ b.snippets, s.Sized

instance (b : Block ι) : Decidable b.Sized :=
  decidable_of_iff _ (sized_iff b).symm

theorem exact_toJson (sized : b.Sized) (depth : Nat) : Exact (depth + 6) b.toJson := by
  refine Json.AllExact.obj ?_
  repeat' apply Json.AllExact.append
  · exact allExact_always _ (.str _ b.id)
  · exact allExact_unlessEmpty _ b.comments
  · exact allExact_always _ (Origin.exact_toJson sized.origin _)
  · refine allExact_always _ (exact_arr_map fun s member => ?_)
    exact Snippet.exact_toJson (sized.snippets s member) depth

theorem build_of_finds (id : idField.Finds members b.id)
    (comments : commentsField.Finds members b.comments)
    (origin : Origin.field.Finds members b.origin)
    (snippets : snippetsField.Finds members b.snippets) :
    build (.named (Json.canonical members)) = .ok b := by
  simp only [build, id _ _, comments _ _, origin _ _, snippets _ _]
  rfl

theorem ofJson_toJson (sized : b.Sized) : ofJson b.toJson = .ok b := by
  refine RecordType.decode_obj (build_of_finds ?_ ?_ ?_ ?_)
  · exact Field.finds_text (by simp)
  · exact Field.finds_texts (by simp)
  · exact Field.finds_of_some b.origin.toJson (by simp)
      (Origin.decode_toJson sized.origin _)
  · exact Field.finds_of_some (.arr (b.snippets.map Snippet.toJson)) (by simp)
      (Decoder.list_map fun s member => Snippet.ofJson_toJson (sized.snippets s member))

end Block

namespace Scene

variable {ι : Type} {s : Scene Text}

@[mk_iff]
structure Sized (s : Scene ι) : Prop where
  origin : s.origin.Sized
  blocks : ∀ b ∈ s.blocks, b.Sized

instance (s : Scene ι) : Decidable s.Sized :=
  decidable_of_iff _ (sized_iff s).symm

theorem exact_toJson (sized : s.Sized) (depth : Nat) : Exact (depth + 8) s.toJson := by
  refine Json.AllExact.obj ?_
  repeat' apply Json.AllExact.append
  · exact allExact_always _ (.str _ s.id)
  · exact allExact_unlessEmpty _ s.comments
  · exact allExact_always _ (Origin.exact_toJson sized.origin _)
  · refine allExact_always _ (exact_arr_map fun b member => ?_)
    exact Block.exact_toJson (sized.blocks b member) depth

theorem build_of_finds (id : idField.Finds members s.id)
    (comments : commentsField.Finds members s.comments)
    (origin : Origin.field.Finds members s.origin)
    (blocks : blocksField.Finds members s.blocks) :
    build (.named (Json.canonical members)) = .ok s := by
  simp only [build, id _ _, comments _ _, origin _ _, blocks _ _]
  rfl

theorem ofJson_toJson (sized : s.Sized) : ofJson s.toJson = .ok s := by
  refine RecordType.decode_obj (build_of_finds ?_ ?_ ?_ ?_)
  · exact Field.finds_text (by simp)
  · exact Field.finds_texts (by simp)
  · exact Field.finds_of_some s.origin.toJson (by simp)
      (Origin.decode_toJson sized.origin _)
  · exact Field.finds_of_some (.arr (s.blocks.map Block.toJson)) (by simp)
      (Decoder.list_map fun b member => Block.ofJson_toJson (sized.blocks b member))

end Scene

end Forest

/-! ## Tagged lines and diagnostics -/

section Records

variable {members : List (Text × Json)}

namespace TaggedLine

def Sized (t : TaggedLine) : Prop :=
  t.origin.Sized

instance (t : TaggedLine) : Decidable t.Sized :=
  inferInstanceAs (Decidable t.origin.Sized)

variable {t : TaggedLine}

theorem exact_toJson (sized : t.Sized) (depth : Nat) : Exact (depth + 2) t.toJson := by
  refine Json.AllExact.obj ?_
  repeat' apply Json.AllExact.append
  · exact allExact_always _ (.str _ t.id)
  · exact allExact_unlessEmpty _ t.tags
  · exact allExact_always _ (Origin.exact_toJson sized depth)

theorem build_of_finds (id : idField.Finds members t.id) (tags : tagsField.Finds members t.tags)
    (origin : Origin.field.Finds members t.origin) :
    build (.named (Json.canonical members)) = .ok t := by
  simp only [build, id _ _, tags _ _, origin _ _]
  rfl

theorem ofJson_toJson (sized : t.Sized) : ofJson t.toJson = .ok t := by
  refine RecordType.decode_obj (build_of_finds ?_ ?_ ?_)
  · exact Field.finds_text (by simp)
  · exact Field.finds_texts (by simp)
  · exact Field.finds_of_some t.origin.toJson (by simp) (Origin.decode_toJson sized _)

end TaggedLine

theorem Severity.ofJson_name (severity : Severity) :
    Severity.ofJson (.str severity.name) = .ok severity := by
  cases severity <;> rfl

namespace Diagnostic

def Sized (d : Diagnostic) : Prop :=
  d.origin.Sized

instance (d : Diagnostic) : Decidable d.Sized :=
  inferInstanceAs (Decidable d.origin.Sized)

variable {d : Diagnostic}

theorem exact_toJson (sized : d.Sized) (depth : Nat) : Exact (depth + 2) d.toJson := by
  refine Json.AllExact.obj ?_
  repeat' apply Json.AllExact.append
  · exact allExact_always _ (.str _ d.severity.name)
  · exact allExact_always _ (.str _ d.message)
  · exact allExact_always _ (Origin.exact_toJson sized _)

theorem build_of_finds (severity : severityField.Finds members d.severity)
    (message : messageField.Finds members d.message)
    (origin : originField.Finds members d.origin) :
    build (.named (Json.canonical members)) = .ok d := by
  simp only [build, severity _ _, message _ _, origin _ _]
  rfl

theorem ofJson_toJson (sized : d.Sized) : ofJson d.toJson = .ok d := by
  refine RecordType.decode_obj (build_of_finds ?_ ?_ ?_)
  · exact Field.finds_of_some (.str d.severity.name) (by simp)
      (Severity.ofJson_name d.severity)
  · exact Field.finds_text (by simp)
  · exact Field.finds_of_some d.origin.toJson (by simp) (Origin.decode_toJson sized _)

end Diagnostic

end Records

/-! ## Extractions -/

namespace Extraction

variable {e : Extraction}

/-- Every number in the extraction has the size that its field has: 64 bits for lines, 32 for
groups. -/
@[mk_iff]
structure Sized (e : Extraction) : Prop where
  scenes : ∀ s ∈ e.scenes, s.Sized
  taggedLines : ∀ t ∈ e.taggedLines, t.Sized
  diagnostics : ∀ d ∈ e.diagnostics, d.Sized

instance (e : Extraction) : Decidable e.Sized :=
  decidable_of_iff _ (sized_iff e).symm

theorem exact_scenes (sized : e.Sized) : Exact 9 (.arr (e.scenes.map Scene.toJson)) :=
  exact_arr_map fun s member => Scene.exact_toJson (sized.scenes s member) 0

/-- Diagnostics are left out when there are none. -/
theorem toJson_eq (e : Extraction) :
    e.toJson = .obj (always "scenes" (.arr (e.scenes.map Scene.toJson)) ++
      always "non_dialogue_lines" (.arr (e.taggedLines.map TaggedLine.toJson)) ++
      ifPresent "diagnostics"
        (if e.diagnostics.isEmpty then none
          else some (.arr (e.diagnostics.map Diagnostic.toJson)))) := by
  unfold toJson
  split <;> rfl

theorem exact_toJson (sized : e.Sized) : Exact 10 e.toJson := by
  rw [toJson_eq]
  refine Json.AllExact.obj ?_
  repeat' apply Json.AllExact.append
  · exact allExact_always _ (exact_scenes sized)
  · refine allExact_always _ (exact_arr_map fun t member => ?_)
    exact TaggedLine.exact_toJson (sized.taggedLines t member) 6
  · refine allExact_ifPresent _ fun j written => ?_
    split at written
    · cases written
    · obtain rfl := Option.some.inj written
      exact exact_arr_map fun d member => Diagnostic.exact_toJson (sized.diagnostics d member) 6

theorem list_scenes (sized : e.Sized) :
    Decoder.list Scene.ofJson (.arr (e.scenes.map Scene.toJson)) = .ok e.scenes :=
  Decoder.list_map fun s member => Scene.ofJson_toJson (sized.scenes s member)

variable {members : List (Text × Json)}

theorem build_of_finds (scenes : scenesField.Finds members e.scenes)
    (taggedLines : taggedLinesField.Finds members e.taggedLines)
    (diagnostics : diagnosticsField.Finds members e.diagnostics) :
    build (.named (Json.canonical members)) = .ok e := by
  simp only [build, scenes _ _, taggedLines _ _, diagnostics _ _]
  rfl

theorem finds_diagnostics (sized : e.Sized)
    (found : Json.find? members "diagnostics".toList =
      if e.diagnostics.isEmpty then none
        else some (.arr (e.diagnostics.map Diagnostic.toJson))) :
    diagnosticsField.Finds members e.diagnostics := by
  split at found
  · rename_i none_
    rw [List.isEmpty_iff.mp none_]
    exact Field.finds_of_none found
  · refine Field.finds_of_some _ found (Decoder.list_map fun d member => ?_)
    exact Diagnostic.ofJson_toJson (sized.diagnostics d member)

theorem ofJson_toJson (sized : e.Sized) : ofJson e.toJson = .ok e := by
  rw [toJson_eq]
  refine RecordType.decode_obj (build_of_finds ?_ ?_ ?_)
  · exact Field.finds_of_some (.arr (e.scenes.map Scene.toJson)) (by simp [scenesName])
      (list_scenes sized)
  · refine Field.finds_of_some (.arr (e.taggedLines.map TaggedLine.toJson)) (by simp)
      (Decoder.list_map fun t member => ?_)
    exact TaggedLine.ofJson_toJson (sized.taggedLines t member)
  · exact finds_diagnostics sized (by simp)

theorem scenesOfJson_toJson (sized : e.Sized) : scenesOfJson e.toJson = .ok e.scenes := by
  have found : Json.find? (always "scenes" (.arr (e.scenes.map Scene.toJson)) ++
      always "non_dialogue_lines" (.arr (e.taggedLines.map TaggedLine.toJson)) ++
      ifPresent "diagnostics"
        (if e.diagnostics.isEmpty then none
          else some (.arr (e.diagnostics.map Diagnostic.toJson)))) scenesName =
      some (.arr (e.scenes.map Scene.toJson)) := by
    simp [scenesName]
  rw [Json.find?] at found
  rw [toJson_eq]
  simp only [scenesOfJson, found, list_scenes sized]

end Extraction

/-! ## Texts -/

theorem readText_of_parse {α : Type} {decoder : Decoder α} {t : Text} {j : Json} {a : α}
    (parsed : Json.parse t = .ok j) (read : decoder j = .ok a) : readText decoder t = .ok a := by
  simp only [readText, parsed, bind, Except.bind, read, Except.mapError]

/-- **An extraction is read back from its text, and so are its scenes**, also from any text that
holds only the list of them. -/
theorem readText_print (e : Extraction) (sized : e.Sized) :
    let bare : Json := .arr (e.scenes.map Scene.toJson)
    readScenes e.print = .ok e.scenes ∧
      readText Extraction.ofJson e.print = .ok e ∧
      readScenes bare.print = .ok e.scenes ∧
      ∀ t, Json.parse t = .ok bare → readScenes t = .ok e.scenes := by
  intro bare
  have whole : Json.parse e.print = .ok e.toJson :=
    Json.parse_print (Extraction.exact_toJson sized) (by decide)
  have list : Json.parse bare.print = .ok bare :=
    Json.parse_print (Extraction.exact_scenes sized) (by decide)
  have ofBare : ∀ t, Json.parse t = .ok bare → readScenes t = .ok e.scenes :=
    fun t parsed => readText_of_parse parsed (Extraction.list_scenes sized)
  refine ⟨?_, ?_, ofBare _ list, ofBare⟩
  · exact readText_of_parse whole (Extraction.scenesOfJson_toJson sized)
  · exact readText_of_parse whole (Extraction.ofJson_toJson sized)

/-! ## Poles -/

/-- An extraction whose texts have quotes, backslashes, control characters and characters of one to
four bytes, with both kinds of beats, fields that are there and fields that are not, and the largest
numbers. -/
def Extraction.intricate : Extraction where
  scenes := [
    { id := "Knöt".toList
      comments := ["\"MERGE\" \\ /".toList, []]
      origin := ⟨"C:\\tales\\t.ink".toList, 18446744073709551615⟩
      blocks := [
        { snippets := [
            { id := ['\x00', '\x1f', '\x7f', '😀', '\uFEFF']
              braceComments := ["\t\r\n".toList]
              group := some 4294967295
              groupIndex := some 0
              groupCount := some 4294967295
              beats := [
                { id := "a".toList, tags := ["wait:2".toList], part := .action none, text := [] },
                { part := .line "FRED".toList (some []) (some "\"".toList)
                  text := "\u2028 日本".toList }] },
            { id := [], beats := [] }] },
        {}] },
    { id := [] }]
  taggedLines := [⟨"b".toList, [], ⟨[], 0⟩⟩]
  diagnostics := [⟨.warning, "\\u0041".toList, ⟨[], 7⟩⟩, ⟨.error, [], ⟨[], 0⟩⟩]

theorem readText_print_intricate :
    Extraction.intricate.Sized ∧
      readScenes Extraction.intricate.print = .ok Extraction.intricate.scenes ∧
      readText Extraction.ofJson Extraction.intricate.print = .ok Extraction.intricate :=
  have sized : Extraction.intricate.Sized := by decide
  have read := readText_print Extraction.intricate sized
  ⟨sized, read.1, read.2.1⟩

end Beatsheet

/-
# Beatsheet.Forest.Json — the JSON form of the forest

Each part of an extraction is a record. Lists of comments and tags are left out when they are empty,
optional values when there is none; identifiers and origins are always written, and most of them may
be missing when they are read.

A beat is a single object with its own members and the shared ones, told apart by the member `beat`.
Its own members are read before the shared ones.
-/
import Beatsheet.Forest.Basic
import Beatsheet.Json.Printer
import Beatsheet.Json.Reader
import Beatsheet.Json.Record

set_option autoImplicit false

namespace Beatsheet

/-! ## Fields -/

namespace Field

def required {α : Type} (name : Text) (decoder : Decoder α) : Field α :=
  { name, decoder }

def defaulting {α : Type} (name : Text) (decoder : Decoder α) (absent : α) : Field α :=
  { name, decoder, absent := some absent }

def texts (name : Text) : Field (List Text) :=
  defaulting name (Decoder.list Decoder.text) []

def optionalText (name : Text) : Field (Option Text) :=
  defaulting name (Decoder.optional Decoder.text) none

/-- The ordinal or the count of a group. -/
def groupNumber (name : Text) : Field (Option Nat) :=
  defaulting name (Decoder.optional (Decoder.word Decoder.limit32 "u32".toList)) none

end Field

namespace Json

/-- A member that is always written. -/
def always (name : String) (value : Json) : List (Text × Json) :=
  [(name.toList, value)]

/-- A list of texts, left out when empty. -/
def unlessEmpty (name : String) (ts : List Text) : List (Text × Json) :=
  if ts.isEmpty then [] else [(name.toList, .arr (ts.map .str))]

def ifPresent (name : String) : Option Json → List (Text × Json)
  | none => []
  | some value => [(name.toList, value)]

end Json

open Json (always unlessEmpty ifPresent)

/-! ## Origins -/

namespace Origin

def toJson (o : Origin) : Json :=
  .obj (always "source_path" (.str o.path) ++ always "line_number" (.int o.line))

def pathField : Field Text :=
  .required "source_path".toList Decoder.text

def lineField : Field Nat :=
  .required "line_number".toList (Decoder.word Decoder.limit64 "usize".toList)

def recordType : RecordType where
  name := "struct Origin".toList
  fields := [pathField.checked, lineField.checked]

def build (r : Record) : Except DataFault Origin := do
  let path ← r.get recordType 0 pathField
  let line ← r.get recordType 1 lineField
  return { path, line }

def ofJson : Decoder Origin :=
  recordType.decode .tooLong build

/-- An origin inside a beat. -/
def ofJsonInside : Decoder Origin :=
  recordType.decode (.tooLongInside · 2) build

def field : Field Origin :=
  .defaulting "origin".toList ofJson {}

end Origin

/-! ## Beats -/

namespace Beat

/-- The part that the member `beat` names. -/
inductive Variant where
  | line
  | action
  deriving DecidableEq, Repr

def Variant.ofJson : Decoder Variant
  | .str t =>
    if t = "line".toList then .ok .line
    else if t = "action".toList then .ok .action
    else .error (.unknownVariant t ["line".toList, "action".toList])
  | j => .error (.wrongType j "variant identifier".toList)

def toJson (b : Beat) : Json :=
  let shared :=
    always "id" (.str b.id) ++ unlessEmpty "comments" b.comments ++ unlessEmpty "tags" b.tags ++
      always "origin" b.origin.toJson
  match b.part with
  | .line speaker qualifier direction =>
    .obj (always "beat" (.str "line".toList) ++ shared ++ always "speaker_id" (.str speaker) ++
      ifPresent "qualifier" (qualifier.map .str) ++ ifPresent "direction" (direction.map .str) ++
      always "text" (.str b.text))
  | .action type =>
    .obj (always "beat" (.str "action".toList) ++ shared ++ ifPresent "type" (type.map .str) ++
      always "text" (.str b.text))

def speakerField : Field Text := .required "speaker_id".toList Decoder.text
def qualifierField : Field (Option Text) := .optionalText "qualifier".toList
def directionField : Field (Option Text) := .optionalText "direction".toList
def typeField : Field (Option Text) := .optionalText "type".toList
def textField : Field Text := .required "text".toList Decoder.text
def idField : Field Text := .defaulting "id".toList Decoder.text []
def commentsField : Field (List Text) := .texts "comments".toList
def tagsField : Field (List Text) := .texts "tags".toList
def originField : Field Origin := .defaulting "origin".toList Origin.ofJsonInside {}

/-- The fields of a line or of an action alone. -/
def ownType : Variant → RecordType
  | .line =>
    { name := "struct DialogueLine".toList
      fields :=
        [speakerField.checked, qualifierField.checked, directionField.checked, textField.checked] }
  | .action =>
    { name := "struct ActionLine".toList, fields := [typeField.checked, textField.checked] }

/-- The fields that all beats have. -/
def sharedType : RecordType where
  name := "struct BeatCommon".toList
  fields := [idField.checked, commentsField.checked, tagsField.checked, originField.checked]

/-- The part and the text. -/
def buildOwn (variant : Variant) (r : Record) : Except DataFault (Part × Text) :=
  match variant with
  | .line => do
    let speaker ← r.get (ownType .line) 0 speakerField
    let qualifier ← r.get (ownType .line) 1 qualifierField
    let direction ← r.get (ownType .line) 2 directionField
    let text ← r.get (ownType .line) 3 textField
    return (.line speaker qualifier direction, text)
  | .action => do
    let type ← r.get (ownType .action) 0 typeField
    let text ← r.get (ownType .action) 1 textField
    return (.action type, text)

def buildShared (own : Part × Text) (r : Record) : Except DataFault Beat := do
  let id ← r.get sharedType 0 idField
  let comments ← r.get sharedType 1 commentsField
  let tags ← r.get sharedType 2 tagsField
  let origin ← r.get sharedType 3 originField
  return { id, comments, tags, origin, part := own.1, text := own.2 }

/-- The name of the member that says what a beat is. -/
def variantName : Text := "beat".toList

def ofJson : Decoder Beat
  | .obj members => do
    let members := Json.canonical members
    let variant ←
      match members.lookup variantName with
      | some value => Variant.ofJson value
      | none => .error (.missingField variantName)
    let own ← Record.settle (ownType variant).fields members (buildOwn variant (.named members))
    Record.settle sharedType.fields members (buildShared own (.named members))
  | .arr [] => .error (.missingField variantName)
  | .arr (item :: rest) => do
    let variant ← Variant.ofJson item
    .error (.wrongType (.arr rest) (ownType variant).name)
  | j => .error (.wrongType j "internally tagged enum Beat".toList)

end Beat

/-! ## Snippets, blocks and scenes -/

namespace Snippet

def toJson (s : Snippet Text) : Json :=
  let number (n : Nat) : Json := .int n
  .obj (always "id" (.str s.id) ++ unlessEmpty "comments" s.comments ++
    unlessEmpty "brace_comments" s.braceComments ++ ifPresent "group" (s.group.map number) ++
    ifPresent "group_index" (s.groupIndex.map number) ++
    ifPresent "group_count" (s.groupCount.map number) ++ always "origin" s.origin.toJson ++
    always "beats" (.arr (s.beats.map Beat.toJson)))

def idField : Field Text := .required "id".toList Decoder.text
def commentsField : Field (List Text) := .texts "comments".toList
def braceCommentsField : Field (List Text) := .texts "brace_comments".toList
def groupField : Field (Option Nat) := .groupNumber "group".toList
def groupIndexField : Field (Option Nat) := .groupNumber "group_index".toList
def groupCountField : Field (Option Nat) := .groupNumber "group_count".toList
def beatsField : Field (List Beat) := .required "beats".toList (Decoder.list Beat.ofJson)

def recordType : RecordType where
  name := "struct Snippet".toList
  fields :=
    [idField.checked, commentsField.checked, braceCommentsField.checked, groupField.checked,
      groupIndexField.checked, groupCountField.checked, Origin.field.checked, beatsField.checked]

def build (r : Record) : Except DataFault (Snippet Text) := do
  let id ← r.get recordType 0 idField
  let comments ← r.get recordType 1 commentsField
  let braceComments ← r.get recordType 2 braceCommentsField
  let group ← r.get recordType 3 groupField
  let groupIndex ← r.get recordType 4 groupIndexField
  let groupCount ← r.get recordType 5 groupCountField
  let origin ← r.get recordType 6 Origin.field
  let beats ← r.get recordType 7 beatsField
  return { id, comments, braceComments, group, groupIndex, groupCount, origin, beats }

def ofJson : Decoder (Snippet Text) :=
  recordType.decode .tooLong build

end Snippet

namespace Block

def toJson (b : Block Text) : Json :=
  .obj (always "id" (.str b.id) ++ unlessEmpty "comments" b.comments ++
    always "origin" b.origin.toJson ++ always "snippets" (.arr (b.snippets.map Snippet.toJson)))

def idField : Field Text := .defaulting "id".toList Decoder.text []
def commentsField : Field (List Text) := .texts "comments".toList

def snippetsField : Field (List (Snippet Text)) :=
  .required "snippets".toList (Decoder.list Snippet.ofJson)

def recordType : RecordType where
  name := "struct Block".toList
  fields :=
    [idField.checked, commentsField.checked, Origin.field.checked, snippetsField.checked]

def build (r : Record) : Except DataFault (Block Text) := do
  let id ← r.get recordType 0 idField
  let comments ← r.get recordType 1 commentsField
  let origin ← r.get recordType 2 Origin.field
  let snippets ← r.get recordType 3 snippetsField
  return { id, comments, origin, snippets }

def ofJson : Decoder (Block Text) :=
  recordType.decode .tooLong build

end Block

namespace Scene

def toJson (s : Scene Text) : Json :=
  .obj (always "id" (.str s.id) ++ unlessEmpty "comments" s.comments ++
    always "origin" s.origin.toJson ++ always "blocks" (.arr (s.blocks.map Block.toJson)))

def idField : Field Text := .required "id".toList Decoder.text
def commentsField : Field (List Text) := .texts "comments".toList

def blocksField : Field (List (Block Text)) :=
  .required "blocks".toList (Decoder.list Block.ofJson)

def recordType : RecordType where
  name := "struct Scene".toList
  fields := [idField.checked, commentsField.checked, Origin.field.checked, blocksField.checked]

def build (r : Record) : Except DataFault (Scene Text) := do
  let id ← r.get recordType 0 idField
  let comments ← r.get recordType 1 commentsField
  let origin ← r.get recordType 2 Origin.field
  let blocks ← r.get recordType 3 blocksField
  return { id, comments, origin, blocks }

def ofJson : Decoder (Scene Text) :=
  recordType.decode .tooLong build

end Scene

/-! ## Tagged lines and diagnostics -/

namespace TaggedLine

def toJson (t : TaggedLine) : Json :=
  .obj (always "id" (.str t.id) ++ unlessEmpty "tags" t.tags ++ always "origin" t.origin.toJson)

def idField : Field Text := .required "id".toList Decoder.text
def tagsField : Field (List Text) := .texts "tags".toList

def recordType : RecordType where
  name := "struct NonDialogueLine".toList
  fields := [idField.checked, tagsField.checked, Origin.field.checked]

def build (r : Record) : Except DataFault TaggedLine := do
  let id ← r.get recordType 0 idField
  let tags ← r.get recordType 1 tagsField
  let origin ← r.get recordType 2 Origin.field
  return { id, tags, origin }

def ofJson : Decoder TaggedLine :=
  recordType.decode .tooLong build

end TaggedLine

namespace Severity

def ofName (t : Text) : Except DataFault Severity :=
  if t = Severity.warning.name then .ok .warning
  else if t = Severity.error.name then .ok .error
  else .error (.unknownVariant t [Severity.warning.name, Severity.error.name])

/-- A severity is a name, or an object with that name as its only member and null for its value. -/
def ofJson : Decoder Severity
  | .str t => ofName t
  | .obj members =>
    match Json.canonical members with
    | [(name, value)] => do
      let severity ← ofName name
      match value with
      | .null => .ok severity
      | j => .error (.wrongType j "unit".toList)
    | _ => .error .notSingle
  | j => .error (.wrongType j "string or map".toList)

end Severity

namespace Diagnostic

def toJson (d : Diagnostic) : Json :=
  .obj (always "severity" (.str d.severity.name) ++ always "message" (.str d.message) ++
    always "origin" d.origin.toJson)

def severityField : Field Severity := .required "severity".toList Severity.ofJson
def messageField : Field Text := .required "message".toList Decoder.text
def originField : Field Origin := .required "origin".toList Origin.ofJson

def recordType : RecordType where
  name := "struct Diagnostic".toList
  fields := [severityField.checked, messageField.checked, originField.checked]

def build (r : Record) : Except DataFault Diagnostic := do
  let severity ← r.get recordType 0 severityField
  let message ← r.get recordType 1 messageField
  let origin ← r.get recordType 2 originField
  return { severity, message, origin }

def ofJson : Decoder Diagnostic :=
  recordType.decode .tooLong build

end Diagnostic

/-! ## Extractions -/

namespace Extraction

def toJson (e : Extraction) : Json :=
  .obj (always "scenes" (.arr (e.scenes.map Scene.toJson)) ++
    always "non_dialogue_lines" (.arr (e.taggedLines.map TaggedLine.toJson)) ++
    (if e.diagnostics.isEmpty then []
      else always "diagnostics" (.arr (e.diagnostics.map Diagnostic.toJson))))

def scenesName : Text := "scenes".toList

def scenesField : Field (List (Scene Text)) :=
  .required scenesName (Decoder.list Scene.ofJson)

def taggedLinesField : Field (List TaggedLine) :=
  .defaulting "non_dialogue_lines".toList (Decoder.list TaggedLine.ofJson) []

def diagnosticsField : Field (List Diagnostic) :=
  .defaulting "diagnostics".toList (Decoder.list Diagnostic.ofJson) []

def recordType : RecordType where
  name := "struct Extraction".toList
  fields := [scenesField.checked, taggedLinesField.checked, diagnosticsField.checked]

def build (r : Record) : Except DataFault Extraction := do
  let scenes ← r.get recordType 0 scenesField
  let taggedLines ← r.get recordType 1 taggedLinesField
  let diagnostics ← r.get recordType 2 diagnosticsField
  return { scenes, taggedLines, diagnostics }

def ofJson : Decoder Extraction :=
  recordType.decode .tooLong build

/-- The text of an extraction. -/
def print (e : Extraction) : Text :=
  e.toJson.print

end Extraction

/-- Reads a value of a type from a text. -/
def readText {α : Type} (decoder : Decoder α) (t : Text) : Except JsonFault α := do
  let j ← Json.parse t
  (decoder j).mapError .data

/-- The scenes of an extraction, or a list of scenes by itself; an object may have none. -/
def scenesOfJson : Decoder (List (Scene Text))
  | .obj members =>
    match (Json.canonical members).lookup Extraction.scenesName with
    | some value => Decoder.list Scene.ofJson value
    | none => .ok []
  | j => Decoder.list Scene.ofJson j

/-- Reads scenes from a text. -/
def readScenes (t : Text) : Except JsonFault (List (Scene Text)) :=
  readText scenesOfJson t

end Beatsheet

/-
# Beatsheet.Options.Reader — reading options

Options are read in the order of the text: a member of the wrong form, or a second one of the same
name, is reported before anything that is wrong with the text behind it. Members of other names are
passed over. Options may also be written as an array of their values; those left out have their
defaults.
-/
import Beatsheet.Json.Reader
import Beatsheet.Json.Record
import Beatsheet.Options

set_option autoImplicit false

namespace Beatsheet

/-- What can be wrong with a text that holds options. -/
inductive OptionsTextFault where
  | json (fault : JsonFault)
  | options (fault : OptionsFault)

namespace Options

def verboseField : Field Bool :=
  { name := "verbose".toList, decoder := Decoder.bool, absent := some false }

def minOverlapField : Field Float :=
  { name := "min_overlap_score".toList, decoder := Decoder.float,
    absent := some ({} : Options).minOverlap }

def idLengthField : Field Nat :=
  { name := "snippet_id_length".toList, decoder := Decoder.word Decoder.limit64 "usize".toList,
    absent := some ({} : Options).idLength }

def uniqueIdsField : Field Bool :=
  { name := "unique_snippet_ids".toList, decoder := Decoder.bool, absent := some false }

def seedField : Field (Option Nat) :=
  { name := "seed".toList, decoder := Decoder.optional (Decoder.word Decoder.limit64 "u64".toList),
    absent := some none }

def recordType : RecordType where
  name := "struct ExtractOptions".toList
  fields :=
    [verboseField.checked, minOverlapField.checked, idLengthField.checked, uniqueIdsField.checked,
      seedField.checked]

def build (r : Record) : Except DataFault Options := do
  let verbose ← r.get recordType 0 verboseField
  let minOverlap ← r.get recordType 1 minOverlapField
  let idLength ← r.get recordType 2 idLengthField
  let uniqueIds ← r.get recordType 3 uniqueIdsField
  let seed ← r.get recordType 4 seedField
  return { verbose, minOverlap, idLength, uniqueIds, seed := seed.map UInt64.ofNat }

open Json

/-- Reads the value of a field, which must be of the right form at once. -/
def fieldValue (check : Json → Option DataFault) (t : Text) : Except JsonFault (Json × Text) := do
  let (value, rest) ← scalar true (skipSpace t)
  match check value with
  | some fault => .error (.data fault)
  | none => .ok (value, rest)

/-- Reads a member; of other fields nothing is kept. -/
def optionMember (known : List (Text × Json)) (t : Text) :
    Except JsonFault (List (Text × Json) × Text) :=
  match t with
  | '"' :: rest => do
    let (name, rest) ← stringRest true rest
    let check := recordType.fields.lookup name
    if check.isSome && (known.lookup name).isSome then .error (.data (.duplicateField name))
    else
      match skipSpace rest with
      | ':' :: rest =>
        match check with
        | none => do
          let rest ← skipValue rest
          return (known, rest)
        | some check => do
          let (value, rest) ← fieldValue check rest
          return (known ++ [(name, value)], rest)
      | rest => .error (stuck rest)
  | t => .error (stuck t)

/-- The members behind the first, up to the end of the object. -/
def moreOptions : (fuel : Nat) → (known : List (Text × Json)) → Text →
    Except JsonFault (List (Text × Json) × Text)
  | 0, _, _ => .error .ended
  | fuel + 1, known, t =>
    match skipSpace t with
    | '\x7d' :: rest => .ok (known, rest)
    | ',' :: rest => do
      let (known, rest) ← optionMember known (skipSpace rest)
      moreOptions fuel known rest
    | t => .error (stuck t)

/-- The values of an array, one for each field, as far as it goes; `first` says that no comma comes
before the next. -/
def listedOptions : (fields : List (Text × (Json → Option DataFault))) → (first : Bool) → Text →
    Except JsonFault (List Json × Text)
  | [], _, t =>
    match skipSpace t with
    | ']' :: rest => .ok ([], rest)
    | rest => .error (stuck rest)
  | (_, check) :: fields, first, t =>
    match skipSpace t with
    | [] => .error .ended
    | ']' :: rest => .ok ([], rest)
    | c :: rest =>
      if first || c == ',' then do
        let (value, rest) ← fieldValue check (if first then c :: rest else rest)
        let (values, rest) ← listedOptions fields false rest
        return (value :: values, rest)
      else .error .malformed

/-- The fields as they are written, and what follows them. -/
def readRecord (t : Text) : Except JsonFault (Record × Text) :=
  match skipSpace t with
  | '\x7b' :: rest =>
    match skipSpace rest with
    | '\x7d' :: rest => .ok (.named [], rest)
    | start => do
      let (known, rest) ← optionMember [] start
      let (known, rest) ← moreOptions (fuelFor rest) known rest
      return (.named known, rest)
  | '[' :: rest => do
    let (values, rest) ← listedOptions recordType.fields true rest
    return (.listed values, rest)
  | start => do
    let (value, _) ← scalar true start
    .error (.data (.wrongType value recordType.name))

/-- Options as they are written, whether they are in range or not. -/
def parse (t : Text) : Except JsonFault Options := do
  let (record, rest) ← readRecord t
  atEnd rest
  (build record).mapError .data

/-- Reads options from a text. -/
def read (t : Text) : Except OptionsTextFault Options := do
  let options ← (parse t).mapError .json
  options.validate.mapError .options

end Options

end Beatsheet

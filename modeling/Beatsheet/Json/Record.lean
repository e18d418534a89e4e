/-
# Beatsheet.Json.Record — reading records

A record is written as an object, whose members may stand in any order and among others, or as an
array of its fields in their order. Of several faults one is reported: in an object the first member
of the wrong form, in the order of the names, and only if there is none the first missing field, in
the order of the fields; in an array the first fault from the left.
-/
import Beatsheet.Json.Fault

set_option autoImplicit false

namespace Beatsheet

/-- How a value of a type is read. -/
abbrev Decoder (α : Type) := Json → Except DataFault α

namespace Decoder

variable {α : Type}

/-! ## Plain values -/

def text : Decoder Text
  | .str t => .ok t
  | j => .error (.wrongType j "a string".toList)

def bool : Decoder Bool
  | .bool b => .ok b
  | j => .error (.wrongType j "a boolean".toList)

/-- One more than the largest number of 32 bits. -/
def limit32 : Nat := 0x100000000

/-- One more than the largest number of 64 bits. -/
def limit64 : Nat := 0x10000000000000000

/-- A whole number below a limit; `type` is what messages call such numbers. -/
def word (limit : Nat) (type : Text) : Decoder Nat
  | .int (.ofNat n) =>
    if n < limit then .ok n else .error (.outOfRange n type)
  | .int i => .error (.outOfRange i type)
  | j => .error (.wrongType j type)

/-- A floating-point number; a whole number will do. -/
def float : Decoder Float
  | .float x => .ok x
  | .int (.ofNat n) => .ok (UInt64.ofNat n).toFloat
  | .int (.negSucc n) => .ok (-(UInt64.ofNat (n + 1)).toFloat)
  | j => .error (.wrongType j "f64".toList)

/-- A value that may be null. -/
def optional (decoder : Decoder α) : Decoder (Option α)
  | .null => .ok none
  | j => (decoder j).map some

def list (decoder : Decoder α) : Decoder (List α)
  | .arr items => items.mapM decoder
  | j => .error (.wrongType j "a sequence".toList)

/-- The fault of a value, if it has one. -/
def fault? (decoder : Decoder α) (j : Json) : Option DataFault :=
  match decoder j with
  | .ok _ => none
  | .error fault => some fault

end Decoder

/-! ## Records -/

/-- A field of a record: its name, how it is read, and its value where it is missing. -/
structure Field (α : Type) where
  name : Text
  decoder : Decoder α
  absent : Option α := none

/-- What a record is written as. -/
inductive Record where
  | named (members : List (Text × Json))
  | listed (items : List Json)

/-- The type of a record: what messages call it, and its fields in their order, as far as they can
be checked without building the record. -/
structure RecordType where
  name : Text
  fields : List (Text × (Json → Option DataFault))

/-- A field as it is checked. -/
def Field.checked {α : Type} (f : Field α) : Text × (Json → Option DataFault) :=
  (f.name, f.decoder.fault?)

namespace Record

variable {α : Type}

/-- The first field of a record of the given type whose value is of the wrong form. -/
def firstFault? (fields : List (Text × (Json → Option DataFault)))
    (members : List (Text × Json)) : Option DataFault :=
  members.findSome? fun (name, value) => (fields.lookup name).bind (· value)

/-- The value of a field, which is the one at `index` in its record. -/
def get (r : Record) (type : RecordType) (index : Nat) (f : Field α) : Except DataFault α :=
  match r with
  | .named members =>
    match members.lookup f.name, f.absent with
    | some value, _ => f.decoder value
    | none, some default => .ok default
    | none, none => .error (.missingField f.name)
  | .listed items =>
    match items[index]?, f.absent with
    | some value, _ => f.decoder value
    | none, some default => .ok default
    | none, none => .error (.tooShort index type.name type.fields.length)

/-- What a build from members says, with the fault that goes first. -/
def settle (fields : List (Text × (Json → Option DataFault))) (members : List (Text × Json))
    (built : Except DataFault α) : Except DataFault α :=
  match built with
  | .ok a => .ok a
  | .error fault => .error ((firstFault? fields members).getD fault)

end Record

/-- Reads a record, given how it is built from its fields in their order. `tooLong` is the fault of
an array with more items than there are fields. -/
def RecordType.decode {α : Type} (type : RecordType) (tooLong : (length : Nat) → DataFault)
    (build : Record → Except DataFault α) : Decoder α
  | .obj members =>
    let members := Json.canonical members
    Record.settle type.fields members (build (.named members))
  | .arr items => do
    let a ← build (.listed items)
    if type.fields.length < items.length then .error (tooLong items.length) else .ok a
  | j => .error (.wrongType j type.name)

end Beatsheet

/-
# Beatsheet.Json.Fault — what can be wrong with JSON

A text can end too early or be malformed; a text that is neither can still hold data of the wrong
form. Faults of the text are told apart by these two cases alone.
-/
import Beatsheet.Json.Value

set_option autoImplicit false

namespace Beatsheet

/-- A value that is not of the form that is read there. -/
inductive DataFault where
  | wrongType (found : Json) (expected : Text)
  | outOfRange (found : Int) (expected : Text)
  /-- An object stands where one with a single member is read. -/
  | notSingle
  | unknownVariant (found : Text) (variants : List Text)
  | missingField (name : Text)
  | duplicateField (name : Text)
  /-- A record written as an array ends before a field that has no default. -/
  | tooShort (index : Nat) (record : Text) (size : Nat)
  | tooLong (length : Nat)
  /-- The same, for a record inside a beat. -/
  | tooLongInside (length size : Nat)

inductive JsonFault where
  | ended
  | malformed
  | data (fault : DataFault)

namespace DataFault

def inBackticks (t : Text) : Text :=
  '`' :: t ++ ['`']

def message : DataFault → Text
  | .wrongType found expected =>
    "invalid type: ".toList ++ found.describe ++ ", expected ".toList ++ expected
  | .outOfRange found expected =>
    "invalid value: ".toList ++ (Json.int found).describe ++ ", expected ".toList ++ expected
  | .notSingle => "invalid value: map, expected map with a single key".toList
  | .unknownVariant found variants =>
    "unknown variant ".toList ++ inBackticks found ++ ", expected ".toList ++
      Text.join " or ".toList (variants.map inBackticks)
  | .missingField name => "missing field ".toList ++ inBackticks name
  | .duplicateField name => "duplicate field ".toList ++ inBackticks name
  | .tooShort index record size =>
    "invalid length ".toList ++ Text.ofNat index ++ ", expected ".toList ++ record ++
      " with ".toList ++ Text.ofNat size ++ " elements".toList
  | .tooLong length =>
    "invalid length ".toList ++ Text.ofNat length ++ ", expected fewer elements in array".toList
  | .tooLongInside length size =>
    "invalid length ".toList ++ Text.ofNat length ++ ", expected ".toList ++ Text.ofNat size ++
      " elements in sequence".toList

end DataFault

namespace JsonFault

/-- Faults of the text go by one word, faults of the data by a message. -/
def message : JsonFault → Text
  | .ended => "eof".toList
  | .malformed => "syntax".toList
  | .data fault => "json error: ".toList ++ fault.message

end JsonFault

end Beatsheet

/-
# Beatsheet.Json.Value — JSON values

Objects keep their members in the order in which they are written. What reads an object looks at its
canonical members instead: in ascending order of their names, and of members with one name only the
last.
-/
import Beatsheet.Number.Decimal
import Beatsheet.Text.Quoted

set_option autoImplicit false

namespace Beatsheet

inductive Json where
  | null
  | bool (b : Bool)
  | int (n : Int)
  | float (x : Float)
  | str (t : Text)
  | arr (items : List Json)
  | obj (members : List (Text × Json))

namespace Json

/-- Puts a member into members in ascending order, in place of one of the same name. -/
def insertMember (name : Text) (value : Json) : List (Text × Json) → List (Text × Json)
  | [] => [(name, value)]
  | (other, old) :: rest =>
    if name = other then (name, value) :: rest
    else if name < other then (name, value) :: (other, old) :: rest
    else (other, old) :: insertMember name value rest

/-- The members in ascending order of their names; the last of equals stays. -/
def canonical (members : List (Text × Json)) : List (Text × Json) :=
  members.foldl (fun sorted (name, value) => insertMember name value sorted) []

/-- How floating-point numbers are written: positionally from `0.00001` up to sixteen digits before
the point, and always as what they are, with a point or an exponent. -/
def floatLayout : Decimal.Layout where
  tie := .even
  positional := some (-5, 15)
  wholeEnd := ['.', '0']

def ofInt : Int → Text
  | .ofNat n => Text.ofNat n
  | .negSucc n => '-' :: Text.ofNat (n + 1)

/-- A value as a message names it. -/
def describe : Json → Text
  | .null => "null".toList
  | .bool b => "boolean `".toList ++ (if b then "true".toList else "false".toList) ++ ['`']
  | .int n => "integer `".toList ++ ofInt n ++ ['`']
  | .float x => "floating point `".toList ++ Decimal.ofFloat floatLayout x ++ ['`']
  | .str t => "string ".toList ++ Text.quoted t
  | .arr _ => "sequence".toList
  | .obj _ => "map".toList

end Json

end Beatsheet

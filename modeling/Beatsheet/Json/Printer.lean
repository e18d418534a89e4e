/-
# Beatsheet.Json.Printer — printing JSON

The layout over several lines: each item and each member on a line of its own, two blanks deeper
than what holds it, and nothing at all between the brackets of an empty value. Characters outside
ASCII are written as they are; of the others only the controls, the quotation mark and the
backslash are escaped.
-/
import Beatsheet.Json.Value

set_option autoImplicit false

namespace Beatsheet.Json

/-- A hexadecimal digit, for a number below sixteen. -/
def hexDigit (n : Nat) : Char :=
  Nat.digitChar n

/-- A character inside a string. -/
def escape (c : Char) : Text :=
  if c = '"' then ['\\', '"']
  else if c = '\\' then ['\\', '\\']
  else if c = '\x08' then ['\\', 'b']
  else if c = '\x0C' then ['\\', 'f']
  else if c = '\n' then ['\\', 'n']
  else if c = '\r' then ['\\', 'r']
  else if c = '\t' then ['\\', 't']
  else if c.toNat < 32 then
    ['\\', 'u', '0', '0', hexDigit (c.toNat / 16), hexDigit (c.toNat % 16)]
  else [c]

def string (t : Text) : Text :=
  '"' :: t.flatMap escape ++ ['"']

/-- A new line at the given depth. -/
def newLine (depth : Nat) : Text :=
  '\n' :: List.replicate (2 * depth) ' '

mutual

/-- A value whose brackets stand at the given depth. -/
def printAt (depth : Nat) : Json → Text
  | .null => "null".toList
  | .bool b => if b then "true".toList else "false".toList
  | .int n => ofInt n
  | .float x => Decimal.ofFloat floatLayout x
  | .str t => string t
  | .arr [] => ['[', ']']
  | .arr (item :: rest) =>
    '[' :: newLine (depth + 1) ++ printAt (depth + 1) item ++ printItems (depth + 1) rest ++
      newLine depth ++ [']']
  | .obj [] => ['\x7b', '\x7d']
  | .obj ((name, value) :: rest) =>
    '\x7b' :: newLine (depth + 1) ++ string name ++ [':', ' '] ++ printAt (depth + 1) value ++
      printMembers (depth + 1) rest ++ newLine depth ++ ['\x7d']

/-- The items behind the first. -/
def printItems (depth : Nat) : List Json → Text
  | [] => []
  | item :: rest => ',' :: newLine depth ++ printAt depth item ++ printItems depth rest

/-- The members behind the first. -/
def printMembers (depth : Nat) : List (Text × Json) → Text
  | [] => []
  | (name, value) :: rest =>
    ',' :: newLine depth ++ string name ++ [':', ' '] ++ printAt depth value ++
      printMembers depth rest

end

/-- The text of a value. -/
def print (j : Json) : Text :=
  printAt 0 j

end Beatsheet.Json

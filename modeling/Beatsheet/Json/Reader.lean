/-
# Beatsheet.Json.Reader — reading JSON

Values are read from left to right, with the fuel that the length of the text gives. A value that is
kept may nest to a depth of 127; to what is only passed over there is no limit.
-/
import Beatsheet.Json.Scanner

set_option autoImplicit false

namespace Beatsheet.Json

/-- How deep arrays and objects may nest, and one more. -/
def depthLimit : Nat := 128

mutual

/-- A value and what follows it; `depth` is the number of levels left. -/
def value (strict : Bool) : (fuel depth : Nat) → Text → Except JsonFault (Json × Text)
  | 0, _, _ => .error .ended
  | fuel + 1, depth, t =>
    match skipSpace t with
    | '[' :: rest =>
      if depth ≤ 1 then .error .malformed
      else
        match skipSpace rest with
        | [] => .error .ended
        | ']' :: rest => .ok (.arr [], rest)
        | rest => do
          let (item, rest) ← value strict fuel (depth - 1) rest
          let (items, rest) ← moreItems strict fuel (depth - 1) rest
          return (.arr (item :: items), rest)
    | '\x7b' :: rest =>
      if depth ≤ 1 then .error .malformed
      else
        match skipSpace rest with
        | [] => .error .ended
        | '\x7d' :: rest => .ok (.obj [], rest)
        | rest => do
          let (first, rest) ← member strict fuel (depth - 1) rest
          let (members, rest) ← moreMembers strict fuel (depth - 1) rest
          return (.obj (first :: members), rest)
    | t => scalar strict t

/-- The items behind the first, up to the end of the array. -/
def moreItems (strict : Bool) : (fuel depth : Nat) → Text → Except JsonFault (List Json × Text)
  | 0, _, _ => .error .ended
  | fuel + 1, depth, t =>
    match skipSpace t with
    | ']' :: rest => .ok ([], rest)
    | ',' :: rest => do
      let (item, rest) ← value strict fuel depth rest
      let (items, rest) ← moreItems strict fuel depth rest
      return (item :: items, rest)
    | t => .error (stuck t)

/-- A member: a name, a colon and a value. -/
def member (strict : Bool) : (fuel depth : Nat) → Text → Except JsonFault ((Text × Json) × Text)
  | 0, _, _ => .error .ended
  | fuel + 1, depth, t =>
    match t with
    | '"' :: rest => do
      let (name, rest) ← stringRest strict rest
      match skipSpace rest with
      | ':' :: rest => do
        let (found, rest) ← value strict fuel depth rest
        return ((name, found), rest)
      | rest => .error (stuck rest)
    | t => .error (stuck t)

/-- The members behind the first, up to the end of the object. -/
def moreMembers (strict : Bool) :
    (fuel depth : Nat) → Text → Except JsonFault (List (Text × Json) × Text)
  | 0, _, _ => .error .ended
  | fuel + 1, depth, t =>
    match skipSpace t with
    | '\x7d' :: rest => .ok ([], rest)
    | ',' :: rest => do
      let (first, rest) ← member strict fuel depth (skipSpace rest)
      let (members, rest) ← moreMembers strict fuel depth rest
      return (first :: members, rest)
    | t => .error (stuck t)

end

/-- Fuel for a text: a value, an item or a member takes at least one character, and reaches the next
in two calls. -/
def fuelFor (t : Text) : Nat :=
  2 * t.length + 2

/-- What follows a value that is passed over. -/
def skipValue (t : Text) : Except JsonFault Text :=
  (value false (fuelFor t) (t.length + 2) t).map (·.2)

/-- Nothing but blanks may follow. -/
def atEnd (t : Text) : Except JsonFault Unit :=
  if (skipSpace t).isEmpty then .ok () else .error .malformed

/-- The value that a text holds. -/
def parse (t : Text) : Except JsonFault Json := do
  let (found, rest) ← value true (fuelFor t) depthLimit t
  atEnd rest
  return found

end Beatsheet.Json

/-
# Beatsheet.Json.Scanner — scanning JSON texts

Strings, numbers and the fixed words, each read from the front of a text. The first fault from the
left is the one reported; where the text ends inside something, it has ended too early, and anything
else is malformed.

What is read but not kept (`strict` is false) needs the right form only: numbers may then have any
size, and escapes may name any sixteen bits. A number of this kind that breaks off is malformed,
also if it is the text that ends there.

Numbers with a point or an exponent, and those too long for 64 bits, are read in binary64
arithmetic: the digits are gathered while they fit, and the result is scaled by one power of ten.
So the last bit is not always that of the number next to the decimal.
-/
import Beatsheet.Json.Fault

set_option autoImplicit false

namespace Beatsheet.Json

open Text

def isSpace (c : Char) : Bool :=
  c == ' ' || c == '\n' || c == '\t' || c == '\r'

def skipSpace (t : Text) : Text :=
  t.dropWhile isSpace

/-- The fault of a text that does not go on as it must. -/
def stuck (t : Text) : JsonFault :=
  if t.isEmpty then .ended else .malformed

/-- What follows a fixed word. -/
def literal : (word t : Text) → Except JsonFault Text
  | [], t => .ok t
  | _ :: _, [] => .error .ended
  | a :: word, b :: t => if a = b then literal word t else .error .malformed

/-! ## Strings -/

/-- The value of a hexadecimal digit. -/
def hexValue? (c : Char) : Option Nat :=
  if c.isDigit then some (c.toNat - '0'.toNat)
  else if 'a' ≤ c && c ≤ 'f' then some (c.toNat - 'a'.toNat + 10)
  else if 'A' ≤ c && c ≤ 'F' then some (c.toNat - 'A'.toNat + 10)
  else none

/-- The number of bytes of a text in UTF-8. -/
def byteCount (t : Text) : Nat :=
  t.foldl (fun total c => total + c.utf8Size) 0

/-- The digits of an escape need four bytes of text; if those are there, they must be digits. -/
def cutEscape (t : Text) : JsonFault :=
  if byteCount t < 4 then .ended else .malformed

def hexNumber? (a b c d : Char) : Option Nat := do
  let a ← hexValue? a
  let b ← hexValue? b
  let c ← hexValue? c
  let d ← hexValue? d
  some (((a * 16 + b) * 16 + c) * 16 + d)

/-- The character of an escape of one letter. -/
def letterEscape? (c : Char) : Option Char :=
  match c with
  | '"' => some '"'
  | '\\' => some '\\'
  | '/' => some '/'
  | 'b' => some '\x08'
  | 'f' => some '\x0C'
  | 'n' => some '\n'
  | 'r' => some '\r'
  | 't' => some '\t'
  | _ => none

/-- Whether sixteen bits are the first half of a pair. -/
def isHigh (n : Nat) : Bool :=
  0xD800 ≤ n && n ≤ 0xDBFF

/-- Whether sixteen bits are the second half of a pair. -/
def isLow (n : Nat) : Bool :=
  0xDC00 ≤ n && n ≤ 0xDFFF

/-- The character of a pair of halves. -/
def pairChar (high low : Nat) : Char :=
  Char.ofNat ((high - 0xD800) * 0x400 + (low - 0xDC00) + 0x10000)

/-- Puts a character in front of a string that is read to its end. -/
def withChar (c : Char) : Except JsonFault (Text × Text) → Except JsonFault (Text × Text)
  | .ok (t, rest) => .ok (c :: t, rest)
  | .error fault => .error fault

/-- The rest of a string, behind its opening quotation mark, and what follows it. -/
def stringRest (strict : Bool) : Text → Except JsonFault (Text × Text)
  | [] => .error .ended
  | '"' :: rest => .ok ([], rest)
  | ['\\'] => .error .ended
  | '\\' :: 'u' :: a :: b :: c :: d :: rest =>
    match hexNumber? a b c d with
    | none => .error .malformed
    | some n =>
      if !strict then withChar '\uFFFD' (stringRest strict rest)
      else if isLow n then .error .malformed
      else if !isHigh n then withChar (Char.ofNat n) (stringRest strict rest)
      else
        match rest with
        | '\\' :: 'u' :: e :: f :: g :: h :: rest =>
          match hexNumber? e f g h with
          | none => .error .malformed
          | some m =>
            if isLow m then withChar (pairChar n m) (stringRest strict rest)
            else .error .malformed
        | '\\' :: 'u' :: rest => .error (cutEscape rest)
        | ['\\'] => .error .ended
        | rest => .error (stuck rest)
  | '\\' :: 'u' :: rest => .error (cutEscape rest)
  | '\\' :: c :: rest =>
    match letterEscape? c with
    | some d => withChar d (stringRest strict rest)
    | none => .error .malformed
  | c :: rest =>
    if c.toNat < 32 then .error .malformed else withChar c (stringRest strict rest)

/-! ## Numbers -/

/-- The largest number of 64 bits. -/
def maxWord : Nat := 0xFFFFFFFFFFFFFFFF

def digitValue (c : Char) : Nat :=
  c.toNat - '0'.toNat

/-- Gathers digits while the number has 64 bits: the number, how many digits were left out, and what
follows all of them. -/
def gather (n : Nat) : Text → Nat × Nat × Text
  | [] => (n, 0, [])
  | c :: rest =>
    if !c.isDigit then (n, 0, c :: rest)
    else if n * 10 + digitValue c ≤ maxWord then gather (n * 10 + digitValue c) rest
    else (n, ((c :: rest).takeWhile Char.isDigit).length, (c :: rest).dropWhile Char.isDigit)

/-- The fault of a number that lacks a digit in front of `t`. -/
def digitMissing (strict : Bool) (t : Text) : JsonFault :=
  if strict then stuck t else .malformed

/-- The number next to a power of ten, up to the 308th. -/
def powerOfTen (n : Nat) : Float :=
  Float.ofScientific 1 false n

/-- Scales down by powers of ten that are too small for one step. -/
def scaleDown : (steps : Nat) → Float → (places : Nat) → Float
  | 0, x, _ => x
  | n + 1, x, places =>
    if places ≤ 308 then x / powerOfTen places
    else if x == 0 then x
    else scaleDown n (x / powerOfTen 308) (places - 308)

def signed (negative : Bool) (x : Float) : Float :=
  if negative then -x else x

/-- The number `± n · 10^exponent`, or none if it is too large. After three steps down nothing is
left of any number of 64 bits. -/
def scaled? (negative : Bool) (n : Nat) (exponent : Int) : Option Float :=
  let x := (UInt64.ofNat n).toFloat
  if exponent < 0 then some (signed negative (scaleDown 4 x exponent.natAbs))
  else if 308 < exponent then if n = 0 then some (signed negative x) else none
  else
    let y := x * powerOfTen exponent.toNat
    if y.isInf then none else some (signed negative y)

/-- The number, which only must not be too large if it is kept. -/
def finish (strict negative : Bool) (n : Nat) (exponent : Int) (rest : Text) :
    Except JsonFault (Json × Text) :=
  match scaled? negative n exponent with
  | some x => .ok (.float x, rest)
  | none => if strict then .error .malformed else .ok (.float 0, rest)

/-- The exponent of a number, behind its `e`. -/
def exponentPart (strict negative : Bool) (n : Nat) (exponent : Int) (t : Text) :
    Except JsonFault (Json × Text) :=
  let (down, digits) :=
    match t with
    | '+' :: rest => (false, rest)
    | '-' :: rest => (true, rest)
    | _ => (false, t)
  let shown := digits.takeWhile Char.isDigit
  let rest := digits.dropWhile Char.isDigit
  if shown.isEmpty then .error (digitMissing strict rest)
  else
    let size := shown.foldl (fun total c => total * 10 + digitValue c) 0
    if size < 0x80000000 then
      finish strict negative n (if down then exponent - size else exponent + size) rest
    else if strict && n != 0 && !down then .error .malformed
    else .ok (.float (signed negative 0), rest)

/-- What may follow the digits of a number that has a point or too many of them. -/
def afterDigits (strict negative : Bool) (n : Nat) (exponent : Int) :
    Text → Except JsonFault (Json × Text)
  | 'e' :: rest => exponentPart strict negative n exponent rest
  | 'E' :: rest => exponentPart strict negative n exponent rest
  | rest => finish strict negative n exponent rest

/-- The digits behind the point. Those left out do not count as places. -/
def fraction (strict negative : Bool) (n : Nat) (exponent : Int) (t : Text) :
    Except JsonFault (Json × Text) :=
  let shown := t.takeWhile Char.isDigit
  let (m, left, rest) := gather n t
  if shown.isEmpty then .error (digitMissing strict t)
  else afterDigits strict negative m (exponent - (shown.length - left : Nat)) rest

/-- A number without point, exponent or digits left out. Zero with a sign, and what lies below the
numbers of 64 bits, is a floating-point number. -/
def whole (negative : Bool) (n : Nat) : Json :=
  if !negative then .int n
  else if 0 < n && n ≤ 0x8000000000000000 then .int (-n)
  else .float (-(UInt64.ofNat n).toFloat)

/-- A number, behind its sign. -/
def number (strict negative : Bool) (t : Text) : Except JsonFault (Json × Text) :=
  match t with
  | [] => .error (digitMissing strict [])
  | c :: next =>
    if !c.isDigit then .error .malformed
    else if c = '0' && (next.head?.any Char.isDigit) then .error .malformed
    else
      match gather 0 t with
      | (n, left, '.' :: rest) => fraction strict negative n left rest
      | (n, 0, 'e' :: rest) => exponentPart strict negative n 0 rest
      | (n, 0, 'E' :: rest) => exponentPart strict negative n 0 rest
      | (n, 0, rest) => .ok (whole negative n, rest)
      | (n, left, rest) => afterDigits strict negative n left rest

/-! ## Values without items -/

/-- Reads a value that starts at the first character, up to where its items would begin: of an array
or an object only the kind is read, and nothing is used up. -/
def scalar (strict : Bool) : Text → Except JsonFault (Json × Text)
  | [] => .error .ended
  | 'n' :: rest => (literal "ull".toList rest).map fun rest => (.null, rest)
  | 't' :: rest => (literal "rue".toList rest).map fun rest => (.bool true, rest)
  | 'f' :: rest => (literal "alse".toList rest).map fun rest => (.bool false, rest)
  | '"' :: rest => (stringRest strict rest).map fun (t, rest) => (.str t, rest)
  | '-' :: rest => number strict true rest
  | '[' :: rest => .ok (.arr [], '[' :: rest)
  | '\x7b' :: rest => .ok (.obj [], '\x7b' :: rest)
  | c :: rest => if c.isDigit then number strict false (c :: rest) else .error .malformed

end Beatsheet.Json

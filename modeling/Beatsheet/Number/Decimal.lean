/-
# Beatsheet.Number.Decimal — decimals

The shortest decimal that reads back as a given binary64 number, and how it is written.

A positive number `m · 2^q` stands for the interval of reals that round to it: half a step to each
side, a quarter step below where the step below is only half as wide, ends included exactly if `m`
is even. For one digit, two digits, and so on, `shortest` looks at the two neighbours of the number
on the grid of decimals with so many digits; the first grid that has a neighbour inside the
interval gives the answer. If both lie inside, the nearer one is taken, and `Tie` decides between
equals.

All of this is exact arithmetic with natural numbers. How the digits are laid out is a separate
matter (`Layout`).
-/
import Beatsheet.Text.Basic

set_option autoImplicit false

namespace Beatsheet

/-- Digits `d₁ d₂ …` and an exponent, for `d₁.d₂… · 10^exponent`. -/
structure Decimal where
  digits : Text
  exponent : Int
  deriving DecidableEq, Repr

/-- Which of two decimals at the same distance is taken. -/
inductive Tie where
  | even
  | up
  deriving DecidableEq, Repr

/-- What the bits of a binary64 number say. -/
inductive FloatParts where
  | nan
  | infinite (negative : Bool)
  | finite (negative : Bool) (significand : Nat) (exponent : Int)
  deriving DecidableEq, Repr

/-- The least significand of a number that is not among the smallest. -/
def FloatParts.leadingBit : Nat := 0x10000000000000

/-- The parts of a number; a finite one is `± significand · 2^exponent`. -/
def FloatParts.ofFloat (x : Float) : FloatParts :=
  let bits : Nat := x.toBits.toNat
  let negative := bits / 0x8000000000000000 == 1
  let field : Nat := bits / leadingBit % 0x800
  let fraction : Nat := bits % leadingBit
  if field = 2047 then (if fraction = 0 then .infinite negative else .nan)
  else if field = 0 then .finite negative fraction (-1074)
  else .finite negative (leadingBit + fraction) ((field : Int) - 1075)

namespace Decimal

/-- The exponent of the first decimal digit of `num / den`, both positive. -/
def leadingExponent (num den : Nat) : Int :=
  if den ≤ num then ((Nat.toDigits 10 (num / den)).length : Int) - 1
  else
    let digits := (Nat.toDigits 10 (den / num)).length
    if den ≤ num * Nat.pow 10 (digits - 1) then -((digits : Int) - 1) else -(digits : Int)

/-- Drops the zeros at the end of a numeral. -/
def dropZeros (t : Text) : Text :=
  (t.reverse.dropWhile (· == '0')).reverse

/-- The decimal `count · 10^grid`, for a positive count. -/
def ofGrid (count : Nat) (grid : Int) : Decimal :=
  let digits := Text.ofNat count
  ⟨dropZeros digits, grid + digits.length - 1⟩

/-- The neighbour of `m · 2^q` on the grid of decimals with `size` digits that rounds to it, if one
does. -/
def onGrid? (tie : Tie) (m : Nat) (q : Int) (size : Nat) : Option Decimal :=
  let num := m * Nat.pow 2 q.toNat
  let den := Nat.pow 2 (-q).toNat
  let grid := leadingExponent num den - size + 1
  let n := num * Nat.pow 10 (-grid).toNat
  let d := den * Nat.pow 10 grid.toNat
  let count := n / d
  let past := n % d
  let within (scaled : Nat) : Bool := if m % 2 = 0 then scaled ≤ n else scaled < n
  let gap := if m = FloatParts.leadingBit && -1074 < q then 4 else 2
  let lower := 0 < count && within (gap * m * past)
  let upper := within (2 * m * (d - past))
  let goUp :=
    match tie with
    | .up => d ≤ 2 * past
    | .even => d < 2 * past || (d == 2 * past && count % 2 == 1)
  if lower && !(upper && goUp) then some (ofGrid count grid)
  else if upper then some (ofGrid (count + 1) grid)
  else none

/-- The shortest decimal that rounds to the positive number `m · 2^q`. Seventeen digits always
suffice. -/
def shortest (tie : Tie) (m : Nat) (q : Int) : Decimal :=
  ((List.range' 1 17).findSome? (onGrid? tie m q)).getD ⟨[], 0⟩

/-! ## Layout -/

/-- How a decimal is laid out. -/
structure Layout where
  tie : Tie
  /-- The exponents that are written positionally; `none` if all are. -/
  positional : Option (Int × Int)
  /-- What follows a whole number. -/
  wholeEnd : Text

/-- The decimal without an exponent. -/
def writePositional (layout : Layout) (x : Decimal) : Text :=
  if x.exponent < 0 then
    "0.".toList ++ List.replicate ((-x.exponent).toNat - 1) '0' ++ x.digits
  else
    let whole := x.exponent.toNat + 1
    if x.digits.length ≤ whole then
      x.digits ++ List.replicate (whole - x.digits.length) '0' ++ layout.wholeEnd
    else x.digits.take whole ++ '.' :: x.digits.drop whole

/-- The decimal with an exponent, whose sign is always written. -/
def writeScientific (x : Decimal) : Text :=
  let fraction := x.digits.drop 1
  x.digits.take 1 ++ (if fraction.isEmpty then [] else '.' :: fraction) ++
    (if x.exponent < 0 then "e-".toList else "e+".toList) ++
    Text.ofNat x.exponent.natAbs

def write (layout : Layout) (x : Decimal) : Text :=
  match layout.positional with
  | none => writePositional layout x
  | some (low, high) =>
    if low ≤ x.exponent && x.exponent ≤ high then writePositional layout x
    else writeScientific x

end Decimal

/-- The text of a binary64 number in a given layout. -/
def Decimal.ofFloat (layout : Decimal.Layout) (x : Float) : Text :=
  match FloatParts.ofFloat x with
  | .nan => "NaN".toList
  | .infinite negative => (if negative then ['-'] else []) ++ "inf".toList
  | .finite negative m q =>
    (if negative then ['-'] else []) ++
      (if m = 0 then '0' :: layout.wholeEnd else (Decimal.shortest layout.tie m q).write layout)

end Beatsheet

/-
# Beatsheet.Options — options

The options of a run and the two that can be out of range: the least overlap at which a snippet
takes over an earlier identifier, which is a share and lies between zero and one, and the length of
fresh identifiers. The overlap is checked first.
-/
import Beatsheet.Number.Decimal

set_option autoImplicit false

namespace Beatsheet

structure Options where
  verbose : Bool := false
  minOverlap : Float := 0.5
  idLength : Nat := 4
  uniqueIds : Bool := false
  seed : Option UInt64 := none

/-- What can be wrong with options. -/
inductive OptionsFault where
  | overlapOutOfRange (got : Float)
  | idLengthZero

namespace OptionsFault

/-- Numbers in these messages never have an exponent. -/
def amount : Decimal.Layout where
  tie := .up
  positional := none
  wholeEnd := []

def message : OptionsFault → Text
  | .overlapOutOfRange got =>
    "invalid options: min_overlap_score must be within 0..=1, got ".toList ++
      Decimal.ofFloat amount got
  | .idLengthZero => "invalid options: snippet_id_length must be at least 1".toList

end OptionsFault

/-- Lets options pass that are in range. -/
def Options.validate (o : Options) : Except OptionsFault Options :=
  if !(0.0 ≤ o.minOverlap && o.minOverlap ≤ 1.0) then .error (.overlapOutOfRange o.minOverlap)
  else if o.idLength = 0 then .error .idLengthZero
  else .ok o

end Beatsheet

/-
# Beatsheet.Continuity.Overlap — overlap

How much two sets of identifiers have in common: the share of what both hold in what either holds.
An overlap is kept as two counts, so that overlaps are compared as exact fractions; only where one
is measured against a threshold is it rounded to a binary64 number (`Overlap.score`).
-/
import Beatsheet.Number.Share
import Beatsheet.Text.LowerCase

set_option autoImplicit false

namespace Beatsheet

structure Overlap where
  shared : Nat
  total : Nat
  deriving DecidableEq, Repr

namespace Overlap

/-- The overlap of two sets, given as lists whose order and repetitions do not count. Sets that
share nothing have none. -/
def of? (new old : List Text) : Option Overlap :=
  let new := new.eraseDups
  let old := old.eraseDups
  let shared := (new.filter old.contains).length
  if shared = 0 then none else some ⟨shared, new.length + old.length - shared⟩

/-- The overlap as the binary64 number nearest to its fraction. -/
def score (o : Overlap) : Float :=
  Share.toFloat o.shared o.total

/-- Whether the fraction of the first overlap is the larger one. -/
def exceeds (a b : Overlap) : Bool :=
  b.shared * a.total < a.shared * b.total

end Overlap

/-- Identifiers as they are compared: without regard to letter case, and only those that are not
empty. -/
def comparable (ids : List Text) : List Text :=
  (ids.filter (!·.isEmpty)).map Text.lowerCase

end Beatsheet

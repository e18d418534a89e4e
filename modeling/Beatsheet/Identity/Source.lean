/-
# Beatsheet.Identity.Source — sources of identifiers

A source says how to draw one identifier and what is left of the source then. `issue` gives names to
a number of snippets, in the order in which they were started. Where names are to be unique, a draw
that was issued before is replaced by the next one, but after 64 draws the last one stands.
-/
import Beatsheet.Identity.Keystream

set_option autoImplicit false

namespace Beatsheet

structure IdSource (σ : Type) where
  draw : σ → Text × σ

namespace IdSource

variable {σ : Type}

/-! ## Sources -/

/-- `S1`, `S2`, and so on; the state is the last number drawn. -/
def numbered : IdSource Nat where
  draw n := ('S' :: Text.ofNat (n + 1), n + 1)

/-- The identifiers of a list in order, the last one again and again. -/
def listed : IdSource (List Text) where
  draw
    | [] => ([], [])
    | [last] => (last, [last])
    | id :: rest => (id, rest)

/-- Random identifiers of the given length. -/
def random (length : Nat) : IdSource Keystream where
  draw := Keystream.symbols length

/-- The next `count` draws. -/
def draws (source : IdSource σ) : (count : Nat) → σ → List Text × σ
  | 0, s => ([], s)
  | n + 1, s =>
    let (id, s) := source.draw s
    let (rest, s) := source.draws n s
    (id :: rest, s)

/-! ## Issuing -/

/-- How often an identifier that was issued before is drawn again. -/
def redraws : Nat := 63

/-- Draws until the identifier is new, at most `fuel` times more. -/
def redraw (source : IdSource σ) (issued : List Text) : (fuel : Nat) → Text → σ → Text × σ
  | 0, id, s => (id, s)
  | n + 1, id, s =>
    if issued.contains id then
      let (id, s) := source.draw s
      source.redraw issued n id s
    else (id, s)

/-- The name of the next snippet. -/
def next (source : IdSource σ) (unique : Bool) (issued : List Text) (s : σ) : Text × σ :=
  let (id, s) := source.draw s
  if unique then source.redraw issued redraws id s else (id, s)

/-- Names for `count` snippets, after those already issued. -/
def issue (source : IdSource σ) (unique : Bool) :
    (count : Nat) → (issued : List Text) → σ → List Text × σ
  | 0, _, s => ([], s)
  | n + 1, issued, s =>
    let (id, s) := source.next unique issued s
    let (rest, s) := source.issue unique n (id :: issued) s
    (id :: rest, s)

end IdSource

end Beatsheet

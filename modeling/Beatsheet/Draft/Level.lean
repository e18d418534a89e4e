/-
# Beatsheet.Draft.Level — levels of braces

The open levels of braces are kept in the order in which they were opened. Each keeps the comments
that stood before it and the place of the level around it, and `top` is the place of the innermost
one. How deep the braces are is counted apart.

What the open levels have to say is found by a walk from the innermost one outward. The walk finds
nothing if it comes to a place where no level is, or if it takes more steps than there are levels
and so goes in circles.
-/
import Beatsheet.Text.Basic

set_option autoImplicit false

namespace Beatsheet

structure Level where
  outer : Option Nat
  comments : List Text
  deriving DecidableEq, Repr

structure Levels where
  opened : List Level := []
  top : Option Nat := none
  depth : Nat := 0
  deriving DecidableEq, Repr

namespace Levels

/-- Opens a level inside the innermost one. -/
def push (l : Levels) (comments : List Text) : Levels where
  opened := l.opened ++ [⟨l.top, comments⟩]
  top := some l.opened.length
  depth := l.depth + 1

/-- Closes the innermost level, if there is one. The depth goes down to zero and not below. -/
def pop (l : Levels) : Levels :=
  let l := { l with depth := l.depth - 1 }
  match l.top with
  | none => l
  | some i => { l with opened := l.opened.take i, top := l.opened[i]?.bind (·.outer) }

/-- The comments of a level and of those around it, its own first, in at most `steps` steps. -/
def walk? (opened : List Level) : (steps : Nat) → (place : Option Nat) → Option (List Text)
  | _, none => some []
  | 0, some _ => none
  | steps + 1, some i => do
    let level ← opened[i]?
    let outer ← walk? opened steps level.outer
    return level.comments ++ outer

/-- The comments of the open levels, the innermost level first. -/
def comments? (l : Levels) : Option (List Text) :=
  walk? l.opened l.opened.length l.top

def comments (l : Levels) : List Text :=
  l.comments?.getD []

end Levels

end Beatsheet

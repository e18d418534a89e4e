/-
# Beatsheet.Forest.Basic — the forest of a script

A script is a list of scenes; a scene holds blocks, a block snippets, a snippet beats. The type `ι`
of snippet identifiers is a parameter: while a script is read, snippets are named by the order in
which they were started, and they get their final names afterwards (`Scene.map`). Everything else
in the forest is the same for every choice of names.
-/
import Beatsheet.Diagnostic

set_option autoImplicit false

namespace Beatsheet

/-- Who or what a beat is about. -/
inductive Part where
  | line (speaker : Text) (qualifier direction : Option Text)
  | action (type : Option Text)
  deriving DecidableEq, Repr

/-- One line of dialogue or of action. -/
structure Beat where
  id : Text := []
  comments : List Text := []
  tags : List Text := []
  origin : Origin := {}
  part : Part
  text : Text
  deriving DecidableEq, Repr

/-- Consecutive beats that share one context. A snippet in a group of alternatives knows the number
of the group, its own place in it and, once the group is closed, how many there are. These three
have no bound; below `2 ^ 32` they are what 32-bit counters hold. -/
structure Snippet (ι : Type) where
  id : ι
  comments : List Text := []
  braceComments : List Text := []
  group : Option Nat := none
  groupIndex : Option Nat := none
  groupCount : Option Nat := none
  origin : Origin := {}
  beats : List Beat := []
  deriving DecidableEq, Repr

structure Block (ι : Type) where
  id : Text := []
  comments : List Text := []
  origin : Origin := {}
  snippets : List (Snippet ι) := []
  deriving DecidableEq, Repr

structure Scene (ι : Type) where
  id : Text
  comments : List Text := []
  origin : Origin := {}
  blocks : List (Block ι) := []
  deriving DecidableEq, Repr

/-- A line outside the beats that declares an identifier. -/
structure TaggedLine where
  id : Text
  tags : List Text := []
  origin : Origin := {}
  deriving DecidableEq, Repr

/-- All that is read from a script. -/
structure Extraction where
  scenes : List (Scene Text)
  taggedLines : List TaggedLine := []
  diagnostics : List Diagnostic := []
  deriving DecidableEq, Repr

/-! ## Renaming snippets -/

section Map

variable {ι κ : Type}

def Snippet.map (f : Snippet ι → κ) (s : Snippet ι) : Snippet κ :=
  { s with id := f s }

def Block.map (f : Snippet ι → κ) (b : Block ι) : Block κ :=
  { b with snippets := b.snippets.map (Snippet.map f) }

/-- Gives every snippet of a scene the name that `f` says. -/
def Scene.map (f : Snippet ι → κ) (s : Scene ι) : Scene κ :=
  { s with blocks := s.blocks.map (Block.map f) }

end Map

/-! ## Views -/

section Views

variable {ι : Type}

def Scene.snippets (s : Scene ι) : List (Snippet ι) :=
  s.blocks.flatMap (·.snippets)

def Scene.beats (s : Scene ι) : List Beat :=
  s.snippets.flatMap (·.beats)

end Views

namespace Extraction

def snippets (e : Extraction) : List (Snippet Text) :=
  e.scenes.flatMap (·.snippets)

/-- The beats in the order of the script. -/
def beats (e : Extraction) : List Beat :=
  e.scenes.flatMap (·.beats)

/-- The identifiers of the beats that have one. -/
def beatIds (e : Extraction) : List Text :=
  (e.beats.map (·.id)).filter (!·.isEmpty)

/-- Whether there is neither a scene nor a tagged line. -/
def isEmpty (e : Extraction) : Bool :=
  e.scenes.isEmpty && e.taggedLines.isEmpty

end Extraction

/-- The tags of the given namespaces: a tag belongs to the one its first colon ends, or to the one
of its own name if it has no colon. -/
def Tag.select (namespaces tags : List Text) : List Text :=
  tags.filter fun tag => namespaces.contains (Text.before ':' tag)

end Beatsheet

/-
# Beatsheet.Tag.Cascade — the cascade of tags

Tags on a line of their own belong to the document, to a scene or to a block: to the outermost of
these that has no content yet. Content closes all three; a new scene opens the scene and the block
again, a new block the block. What a beat or a tagged line inherits comes from the block first, then
from the scene, then from the document, and a tag stays out when one of its key is there already.

The token `dink` is not a tag: it switches the annotation on, for the scene it stands in or, before
all content, for the whole document. Tokens that declare an identifier name no part and are dropped.
-/
import Beatsheet.Tag.Basic

set_option autoImplicit false

namespace Beatsheet

open Text

inductive Scope where
  | document
  | scene
  | block
  deriving DecidableEq, Repr

/-- The tags of the three scopes, which of them have seen content, and the annotation switch. -/
structure Cascade where
  document : List Text := []
  scene : List Text := []
  block : List Text := []
  documentSeen : Bool := false
  sceneSeen : Bool := false
  blockSeen : Bool := false
  documentActive : Bool := false
  active : Bool := false
  deriving DecidableEq, Repr, Inhabited

namespace Cascade

/-- The token that switches the annotation on. -/
def switch : Text :=
  "dink".toList

/-- The tokens of a tag line that a scope keeps. -/
def kept (tokens : List Text) : List Text :=
  tokens.filter fun token => (after? Tag.idMark token).isNone && token != switch

/-- The scope that takes the next tag line. -/
def scope? (c : Cascade) : Option Scope :=
  if !c.documentSeen then some .document
  else if !c.sceneSeen then some .scene
  else if !c.blockSeen then some .block
  else none

/-- Adds tags to a scope. -/
def extend (c : Cascade) (scope : Scope) (tags : List Text) : Cascade :=
  match scope with
  | .document => { c with document := c.document ++ tags }
  | .scene => { c with scene := c.scene ++ tags }
  | .block => { c with block := c.block ++ tags }

/-- Takes in the tokens of a tag line; they go to `scope?`. -/
def route (c : Cascade) (tokens : List Text) : Cascade :=
  let on := tokens.contains switch
  let c' :=
    { c with
      active := c.active || on
      documentActive := c.documentActive || (on && c.scope? == some .document) }
  match c.scope? with
  | some scope => c'.extend scope (kept tokens)
  | none => c'

/-- Content closes all scopes. -/
def markContent (c : Cascade) : Cascade :=
  { c with documentSeen := true, sceneSeen := true, blockSeen := true }

def beginScene (c : Cascade) : Cascade :=
  { c with
    scene := [], block := [], sceneSeen := false, blockSeen := false, active := c.documentActive }

def beginBlock (c : Cascade) : Cascade :=
  { c with block := [], blockSeen := false }

/-! ## Inheriting -/

/-- The namespace of a tag: its part up to and including the first colon. -/
def space? (tag : Text) : Option Text :=
  if tag.contains ':' then some (before ':' tag ++ [':']) else none

/-- Whether a tag has the key of one that is there: its namespace or, without one, itself. -/
def taken (tags : List Text) (tag : Text) : Bool :=
  match space? tag with
  | some space => tags.any (space.isPrefixOf ·)
  | none => tags.contains tag

def adopt (tags : List Text) (tag : Text) : List Text :=
  if taken tags tag then tags else tags ++ [tag]

/-- What the scopes offer, the nearest first. -/
def offered (c : Cascade) : List Text :=
  c.block ++ c.scene ++ c.document

/-- The tags with those they inherit. -/
def apply (c : Cascade) (tags : List Text) : List Text :=
  c.offered.foldl adopt tags

end Cascade

end Beatsheet

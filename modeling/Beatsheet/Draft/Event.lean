/-
# Beatsheet.Draft.Event — events

What happens while a script is read, in order. Diagnostics are events like the others, and are
always of interest; the rest is only shown by a verbose run.
-/
import Beatsheet.Forest.Dump
import Beatsheet.Tag.Cascade

set_option autoImplicit false

namespace Beatsheet

inductive Event where
  | tagsRouted (scope : Option Scope) (line : Text)
  | groupOpened (ordinal depth : Nat)
  | groupClosed (ordinal : Nat)
  | sceneBegun (id : Text)
  | blockBegun (id : Text)
  | beatRead (beat : Beat)
  | lineTagged (id : Text) (origin : Origin)
  | reported (diagnostic : Diagnostic)
  | idsReused (count : Nat)
  deriving DecidableEq, Repr

namespace Event

def diagnostic? : Event → Option Diagnostic
  | .reported d => some d
  | _ => none

/-- Whether a run that is not verbose shows the event too. -/
def isLoud (e : Event) : Bool :=
  e.diagnostic?.isSome

def scopeName : Option Scope → Text
  | some .document => "Some(Document)".toList
  | some .scene => "Some(Scene)".toList
  | some .block => "Some(Block)".toList
  | none => "None".toList

def level : Event → Text
  | .reported ⟨.warning, _, _⟩ => "WARN".toList
  | .reported ⟨.error, _, _⟩ => "ERROR".toList
  | _ => "DEBUG".toList

def message : Event → Text
  | .tagsRouted scope line =>
    "tag line routed to ".toList ++ scopeName scope ++ ": ".toList ++ line
  | .groupOpened ordinal depth =>
    "group ".toList ++ Text.ofNat ordinal ++ " opened at depth ".toList ++ Text.ofNat depth
  | .groupClosed ordinal => "group ".toList ++ Text.ofNat ordinal ++ " closed".toList
  | .sceneBegun id => "scene: ".toList ++ id
  | .blockBegun id => "block: ".toList ++ id
  | .beatRead beat => "parsed beat: ".toList ++ beat.dump
  | .lineTagged id origin => "non-dialogue line ".toList ++ id ++ " at ".toList ++ origin.render
  | .reported d => d.render
  | .idsReused count =>
    "reused snippet ids from previous extraction reused=".toList ++ Text.ofNat count

/-- The event as a line of the log. -/
def render (e : Event) : Text :=
  e.level ++ ' ' :: e.message

/-- The log of a run. -/
def log (verbose : Bool) (events : List Event) : List Text :=
  (events.filter fun e => verbose || e.isLoud).map Event.render

end Event

end Beatsheet

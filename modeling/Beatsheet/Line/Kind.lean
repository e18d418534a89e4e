/-
# Beatsheet.Line.Kind — what a line is

`Reading.ofLine` says all there is to know of one line without the lines before it. A line that is
not blank, not a tag line and not a statement is content, and content is two things at once: it may
turn the flow of beats (`Turn`), by its braces or else by a bullet, dash or arrow, and it plays a
role (`Role`). Prose is all content that is no bare clause, header or comment; what becomes of prose
depends on the annotation, so `Prose` holds each way to read it.
-/
import Beatsheet.Line.Remark
import Beatsheet.Line.Brace
import Beatsheet.Line.Header
import Beatsheet.Line.Flow
import Beatsheet.Line.Shape

set_option autoImplicit false

namespace Beatsheet

/-- What a line does to the flow of beats. -/
inductive Turn where
  | opening (group : Bool)
  | closing
  | speech
  | choice (text : Text)
  | gather
  | other
  deriving DecidableEq, Repr

/-- Braces go before all else; of the other turns, speech behind a dash goes first. -/
def Turn.ofLine? (line : Text) : Option Turn :=
  match Brace.ofLine? line with
  | some .opening => some (.opening (Line.opensGroup line))
  | some .closing => some .closing
  | none =>
    if !Line.breaksFlow line then none
    else if Line.isDashSpeech line then some .speech
    else
      match Line.choice? line with
      | some text => some (.choice text)
      | none => if Line.isGather line then some .gather else some .other

/-- A line that can be read as a beat. -/
inductive Shape where
  | speech (shape : Speech)
  | action (shape : Action)
  deriving DecidableEq, Repr

/-- Speech goes before action. -/
def Shape.ofLine? (line : Text) : Option Shape :=
  match Speech.ofLine? line with
  | some shape => some (.speech shape)
  | none => (Action.ofLine? line).map .action

/-- The ways to read a line of prose; `straying` holds when it is content behind the colon of a
clause. -/
structure Prose where
  straying : Bool
  label : Option Text
  shape : Option Shape
  tagged : Option Tagged
  deriving DecidableEq, Repr

def Prose.ofLine (straying : Bool) (line : Text) : Prose where
  straying := straying
  label := Line.label? line
  shape := Shape.ofLine? line
  tagged := Tagged.ofLine? line

/-- The part a line of content plays. -/
inductive Role where
  | clause
  | knot (id : Text)
  | stitch (id : Text)
  | comment (text : Text)
  | prose (ways : Prose)
  deriving DecidableEq, Repr

def Role.ofLine (line : Text) : Role :=
  match Clause.ofLine? line with
  | some found => if found.rest.isEmpty then .clause else .prose (Prose.ofLine true line)
  | none =>
    match Line.knot? line with
    | some id => .knot id
    | none =>
      match Line.stitch? line with
      | some id => .stitch id
      | none =>
        match Line.comment? line with
        | some text => .comment text
        | none => .prose (Prose.ofLine false line)

inductive Kind where
  | blank
  | tags (tokens : List Text)
  | statement
  | content (turn : Option Turn) (role : Role)
  deriving DecidableEq, Repr

def Kind.ofLine (line : Text) : Kind :=
  if line.isEmpty then .blank
  else
    match Tag.line? line with
    | some tokens => .tags tokens
    | none =>
      if Line.isStatement line then .statement
      else .content (Turn.ofLine? line) (Role.ofLine line)

/-- A line taken apart: what it says, the comment that ends it, and what it is. -/
structure Reading where
  body : Text
  comment : Option Text
  kind : Kind
  deriving DecidableEq, Repr

def Reading.ofLine (line : Text) : Reading :=
  let (body, comment) := Line.splitComment (Text.trim line)
  ⟨body, comment, Kind.ofLine body⟩

end Beatsheet

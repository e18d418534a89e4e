/-
# Beatsheet.Line.Brace — braces

A line opens a level of braces when it holds more `{` than `}`, and closes one when it holds more
`}` than `{`; where in the line they stand does not matter. A level is a group of alternatives when
somewhere in its line a brace is followed by a name with a colon behind, as in `{ shuffle:`.
-/
import Beatsheet.Text.WordChar

set_option autoImplicit false

namespace Beatsheet

open Text

inductive Brace where
  | opening
  | closing
  deriving DecidableEq, Repr

def Brace.ofLine? (line : Text) : Option Brace :=
  if line.count '}' < line.count '{' then some .opening
  else if line.count '{' < line.count '}' then some .closing
  else none

namespace Line

/-- Whether a text starts with a name and a colon right behind it. -/
def startsNamed (t : Text) : Bool :=
  !(word t).isEmpty && (afterWord t).head? == some ':'

/-- Whether some brace of the line opens a group of alternatives. -/
def opensGroup : Text → Bool
  | [] => false
  | c :: rest => (c == '{' && startsNamed (trimStart rest)) || opensGroup rest

end Line

end Beatsheet

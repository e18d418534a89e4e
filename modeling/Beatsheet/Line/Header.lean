/-
# Beatsheet.Line.Header — headers and statements

A knot header, `== name`, begins a scene; a stitch header, `= name`, begins a block. What follows
the name in its line does not count. Statements of the script language, which carry no annotation,
start with `~` or with one of its keywords.
-/
import Beatsheet.Text.WordChar

set_option autoImplicit false

namespace Beatsheet.Line

open Text

/-- The name a text starts with, if no line break follows it. -/
def name? (t : Text) : Option Text :=
  if (word t).isEmpty || (afterWord t).contains '\n' then none else some (word t)

/-- The name in a knot header: behind two or more `=`. -/
def knot? (line : Text) : Option Text :=
  match trimStart line with
  | '=' :: '=' :: rest => name? (trimStart (rest.dropWhile (· == '=')))
  | _ => none

/-- The name in a stitch header: behind a single `=`. -/
def stitch? (line : Text) : Option Text :=
  match trimStart line with
  | '=' :: rest => name? (trimStart rest)
  | _ => none

/-- The keywords a statement may start with. -/
def keywords : List Text :=
  ["INCLUDE".toList, "VAR".toList, "CONST".toList, "LIST".toList, "EXTERNAL".toList, "TODO".toList]

/-- Whether the line is a statement of the script language. -/
def isStatement (line : Text) : Bool :=
  match trimStart line with
  | '~' :: _ => true
  | start => keywords.contains (word start)

end Beatsheet.Line

/-
# Beatsheet.Line.Flow — flow

Lines that interrupt the flow of beats: choices (`* text`, `+ [text]`), gathers (`-`), and all
others that start with a bullet or a dash or that hold an arrow. Speech behind a dash, as in
`- NAME: text`, interrupts the flow too, but keeps the comments before it for its own beat.
-/
import Beatsheet.Text.WordChar

set_option autoImplicit false

namespace Beatsheet.Line

open Text

/-! ## Choices -/

def isBullet (c : Char) : Bool :=
  c == '*' || c == '+'

/-- What follows the bullets of a choice and the blanks around them. -/
def afterBullets? (line : Text) : Option Text :=
  match trimStart line with
  | [] => none
  | c :: rest => if isBullet c then some (rest.dropWhile fun d => isBlank d || isBullet d) else none

/-- The part of a text before its first `#`, trimmed. -/
def untagged (t : Text) : Text :=
  trim (before '#' t)

/-- Whether what follows the closing bracket is one line, but for blanks and tags on the next. -/
def endsChoice (t : Text) : Bool :=
  match trimStart (t.dropWhile (· != '\n')) with
  | [] => true
  | '#' :: rest => !rest.contains '\n'
  | _ => false

/-- The text between `[` and the first `]`. -/
def bracketed? : Text → Option Text
  | '[' :: rest =>
    match rest.dropWhile (· != ']') with
    | [] => none
    | _ :: tail => if endsChoice tail then some (before ']' rest) else none
  | _ => none

/-- The text of a choice: what stands in brackets or, without brackets, what follows the bullets; in
both cases without its tags. Tags at the end do not reach over a line break. -/
def choice? (line : Text) : Option Text := do
  let rest ← afterBullets? line
  match bracketed? rest with
  | some inside => some (untagged inside)
  | none => if (rest.dropWhile (· != '#')).contains '\n' then none else some (untagged rest)

/-! ## Other lines -/

def isGather (line : Text) : Bool :=
  trim line == ['-']

/-- Whether the line interrupts the flow of beats. -/
def breaksFlow (line : Text) : Bool :=
  match trim line with
  | [] => false
  | c :: rest =>
    c == '-' || isBullet c || occurs "->".toList (c :: rest) || occurs "<-".toList (c :: rest)

/-- Whether the line is speech behind a dash: a capital, and a colon somewhere after it. -/
def isDashSpeech (line : Text) : Bool :=
  match trim line with
  | '-' :: rest =>
    match trimStart rest with
    | c :: tail => c.isUpper && (before '\n' tail).contains ':'
    | [] => false
  | _ => false

end Beatsheet.Line

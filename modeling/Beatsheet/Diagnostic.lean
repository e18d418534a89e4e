/-
# Beatsheet.Diagnostic — diagnostics

A fault of the script stops nothing: it is reported, with its origin, and reading goes on.
-/
import Beatsheet.Origin

set_option autoImplicit false

namespace Beatsheet

inductive Severity where
  | warning
  | error
  deriving DecidableEq, Repr, Inhabited

def Severity.name : Severity → Text
  | .warning => "warning".toList
  | .error => "error".toList

structure Diagnostic where
  severity : Severity
  message : Text
  origin : Origin
  deriving DecidableEq, Repr, Inhabited

/-- The diagnostic in one line, as `path:line: severity: message`. -/
def Diagnostic.render (d : Diagnostic) : Text :=
  d.origin.render ++ ": ".toList ++ d.severity.name ++ ": ".toList ++ d.message

/-- What can be wrong with a script. -/
inductive Complaint where
  /-- A line has content behind the colon of a clause. -/
  | contentAfterClause (line : Text)
  /-- A line of speech stands where the annotation is off. -/
  | speechOutside (line : Text)
  /-- A beat declares no identifier. -/
  | missingId (text : Text)
  deriving DecidableEq, Repr

namespace Complaint

def severity : Complaint → Severity
  | .contentAfterClause _ => .error
  | .speechOutside _ => .warning
  | .missingId _ => .warning

def message : Complaint → Text
  | .contentAfterClause line =>
    "line starts with an expression but has content after the colon: ".toList ++ line
  | .speechOutside line => "dialogue line outside a #dink-tagged section: ".toList ++ line
  | .missingId text => "beat is missing a line id: ".toList ++ text

def diagnostic (c : Complaint) (origin : Origin) : Diagnostic :=
  ⟨c.severity, c.message, origin⟩

end Complaint

end Beatsheet

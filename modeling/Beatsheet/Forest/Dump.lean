/-
# Beatsheet.Forest.Dump — dumps

The readable form of the forest: one line for each scene, block, snippet and beat, indented by its
depth. A part is indented line by line, so a text with line breaks in it is indented too; the last
line break of a part, and a carriage return before any, do not show.
-/
import Beatsheet.Forest.Basic

set_option autoImplicit false

namespace Beatsheet

open Text

/-- A line without the carriage return that ends it. -/
def Text.dropReturn (line : Text) : Text :=
  match line.reverse with
  | '\r' :: rest => rest.reverse
  | _ => line

/-- The lines of a dumped part, where each line feed ends one. -/
def Text.dumpedLines (t : Text) : List Text :=
  match (splitWhere (· == '\n') t).reverse with
  | [] => []
  | [] :: ended => (ended.map dropReturn).reverse
  | last :: ended => (last :: ended.map dropReturn).reverse

namespace Dump

/-- A labelled part of a line, left out when there is nothing to show. -/
def labelled (label : Text) : Option Text → Text
  | none => []
  | some t => label ++ t

/-- A labelled list, each item between the given marks, left out when empty. -/
def listed (label start finish : Text) (ts : List Text) : Text :=
  if ts.isEmpty then [] else label ++ (ts.map fun t => ' ' :: start ++ t ++ finish).flatten

/-- What a part holds, each of its lines behind a line feed and two blanks. -/
def nested (parts : List Text) : Text :=
  (parts.flatMap dumpedLines).flatMap fun line => "\n  ".toList ++ line

def header (kind id label : Text) (count : Nat) : Text :=
  kind ++ ':' :: id ++ ' ' :: label ++ ':' :: Text.ofNat count

end Dump

open Dump

def Part.dump : Part → Text
  | .line speaker qualifier direction =>
    "Line | Speaker: ".toList ++ speaker ++ labelled " | Qualifier: ".toList qualifier ++
      labelled " | Direction: ".toList direction
  | .action type => "Action".toList ++ labelled " | Type: ".toList type

def Beat.dump (b : Beat) : Text :=
  '[' :: b.id ++ "] ".toList ++ b.part.dump ++ " | Text: \"".toList ++ b.text ++ ['"'] ++
    listed " | Tags:".toList ['#'] [] b.tags ++
    listed " | Comments:".toList ['\''] ['\''] b.comments

def Snippet.dump (s : Snippet Text) : Text :=
  header "Snippet".toList s.id "Beats".toList s.beats.length ++
    (match s.group, s.groupIndex with
      | some group, some index => " Group:".toList ++ Text.ofNat group ++ '#' :: Text.ofNat index
      | _, _ => []) ++
    s.beats.flatMap fun beat => "\n    ".toList ++ beat.dump

def Block.dump (b : Block Text) : Text :=
  header "Block".toList b.id "Snippets".toList b.snippets.length ++
    nested (b.snippets.map Snippet.dump)

def Scene.dump (s : Scene Text) : Text :=
  header "Scene".toList s.id "Blocks".toList s.blocks.length ++ nested (s.blocks.map Block.dump)

end Beatsheet

/-
# Beatsheet.Source.BlockComment — block comments

A comment opens with `/*` and ends with the first `*/` that lies wholly after it; comments do not
nest. Leaving out a comment leaves its line breaks in place, so no line of the source changes its
number. An opening that nothing closes is no comment: it stays, and so does all that follows it.
-/
import Beatsheet.Text.Basic

set_option autoImplicit false

namespace Beatsheet.BlockComment

open Text

/-- Whether `*/` occurs in the text. -/
def closes : Text → Bool
  | '*' :: '/' :: _ => true
  | _ :: rest => closes rest
  | [] => false

/-- One pass over the text, outside a comment or inside one that is known to end. -/
def scan : (inside : Bool) → Text → Text
  | false, '/' :: '*' :: rest => if closes rest then scan true rest else '/' :: '*' :: rest
  | true, '*' :: '/' :: rest => scan false rest
  | false, c :: rest => c :: scan false rest
  | true, c :: rest => if isBreak c then c :: scan true rest else scan true rest
  | _, [] => []

/-- No pass drops or adds a line break. -/
theorem filter_isBreak_scan (inside : Bool) (t : Text) :
    (scan inside t).filter isBreak = t.filter isBreak := by
  fun_induction scan inside t <;> simp_all [isBreak, List.filter_cons]

/-- The text without its block comments, their line breaks kept. -/
def strip (t : Text) : Text :=
  scan false t

end Beatsheet.BlockComment

/-
# Beatsheet.Origin — origins

Every line, every part of the forest and every diagnostic says where it came from: the path of the
source and the number of the line, counted from one.
-/
import Beatsheet.Text.Basic

set_option autoImplicit false

namespace Beatsheet

structure Origin where
  path : Text := []
  line : Nat := 0
  deriving DecidableEq, Repr, Inhabited

/-- The origin as `path:line`. -/
def Origin.render (o : Origin) : Text :=
  o.path ++ ':' :: Text.ofNat o.line

end Beatsheet

/-
# Beatsheet.Proofs.Source.BlockComment — what stays of a text without its comments

Every character of a text stands in a comment or outside all of them (`marked`). Those outside stay,
and of those inside only the ones that end lines do, so the text without comments is what stays of
the characters (`kept_marked`). A character that stays has a place in it (`place`), and what is
before that place is what stays of the characters before (`take_place_strip`).
-/
import Beatsheet.Source.BlockComment

set_option autoImplicit false

namespace Beatsheet.BlockComment

open Text

/-- Each character of the text, and whether it stands in a comment. -/
def marked : (inside : Bool) → Text → List (Char × Bool)
  | false, '/' :: '*' :: rest =>
    if closes rest then ('/', true) :: ('*', true) :: marked true rest
    else ('/' :: '*' :: rest).map fun c => (c, false)
  | true, '*' :: '/' :: rest => ('*', true) :: ('/', true) :: marked false rest
  | inside, c :: rest => (c, inside) :: marked inside rest
  | _, [] => []

/-- Whether a character stays when the comments are left out. -/
def stays (m : Char × Bool) : Bool :=
  !m.2 || isBreak m.1

/-- What stays of some characters. -/
def kept (ms : List (Char × Bool)) : Text :=
  (ms.filter stays).map (·.1)

theorem stays_of_isBreak {m : Char × Bool} (ends : isBreak m.1 = true) : stays m = true := by
  simp [stays, ends]

theorem kept_append (ms ns : List (Char × Bool)) : kept (ms ++ ns) = kept ms ++ kept ns := by
  simp [kept]

/-! ## The characters of a text -/

theorem map_fst_marked (inside : Bool) (t : Text) : (marked inside t).map (·.1) = t := by
  fun_induction marked inside t <;> simp_all [Function.comp_def]

/-- **Leaving out the comments leaves the characters that stay.** -/
theorem kept_marked (inside : Bool) (t : Text) : kept (marked inside t) = scan inside t := by
  fun_induction scan inside t with
  | case1 rest closed ih => simp [marked, closed, ← ih, kept, stays, isBreak]
  | case2 rest opened => simp [marked, opened, kept, stays, List.filter_map, Function.comp_def]
  | case3 rest ih => simp [marked, ← ih, kept, stays, isBreak]
  | case4 c rest plain ih => simp_all [marked, kept, stays]
  | case5 c rest plain ends ih => simp_all [marked, kept, stays]
  | case6 c rest plain ends ih => simp_all [marked, kept, stays]
  | case7 inside => cases inside <;> simp [marked, kept]

theorem length_marked (t : Text) : (marked false t).length = t.length := by
  rw [← List.length_map (·.1), map_fst_marked]

theorem map_fst_take_marked (t : Text) (n : Nat) :
    ((marked false t).take n).map (·.1) = t.take n := by
  rw [List.map_take, map_fst_marked]

/-! ## Places -/

/-- Whether the character at a place stands in a comment. -/
def covers (t : Text) (n : Nat) : Bool :=
  (marked false t)[n]?.any (·.2)

/-- Where a place of the text is once the comments are left out. -/
def place (t : Text) (n : Nat) : Nat :=
  (kept ((marked false t).take n)).length

theorem take_place_strip (t : Text) (n : Nat) :
    (strip t).take (place t n) = kept ((marked false t).take n) := by
  have parts : strip t = kept ((marked false t).take n) ++ kept ((marked false t).drop n) := by
    rw [← kept_append, List.take_append_drop, kept_marked, strip]
  rw [parts, place, List.take_left]

/-- A character outside comments is still there. -/
theorem getElem?_place_strip {t : Text} {n : Nat} {c : Char} (there : t[n]? = some c)
    (outside : covers t n = false) : (strip t)[place t n]? = some c := by
  have marks : ((marked false t)[n]?).map (·.1) = some c := by
    rw [← List.getElem?_map, map_fst_marked, there]
  obtain ⟨⟨c, inside⟩, found, rfl⟩ := Option.map_eq_some_iff.mp marks
  obtain rfl : inside = false := by simpa [covers, found] using outside
  have parts : marked false t =
      (marked false t).take n ++ (c, false) :: (marked false t).drop (n + 1) := by
    obtain ⟨within, here⟩ := List.getElem?_eq_some_iff.mp found
    rw [← here, List.getElem_cons_drop, List.take_append_drop]
  have stayed : strip t =
      kept ((marked false t).take n) ++ c :: kept ((marked false t).drop (n + 1)) := by
    calc strip t = kept (marked false t) := (kept_marked false t).symm
      _ = kept ((marked false t).take n ++ (c, false) :: (marked false t).drop (n + 1)) :=
          congrArg kept parts
      _ = _ := kept_append _ _
  rw [stayed, place, List.getElem?_append_right (Nat.le_refl _), Nat.sub_self]
  rfl

end Beatsheet.BlockComment

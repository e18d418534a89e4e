/-
# Beatsheet.Proofs.Json.Record — records are read from what was written

What reads an object finds its members by name, whatever their order, and of members with one name
the last (`find?_append`). So a field finds the member that was written for it, behind and before
members of other names, and a member that was left out comes back as the field's default
(`Field.Finds`).
-/
import Beatsheet.Forest.Json
import Mathlib.Data.List.Induction
import Mathlib.Tactic.SplitIfs

set_option autoImplicit false

namespace Beatsheet

namespace Json

/-! ## Members by name -/

/-- The value of a member, as what reads an object finds it. -/
def find? (members : List (Text × Json)) (name : Text) : Option Json :=
  (canonical members).lookup name

theorem lookup_cons_eq_ite (name : Text) (m : Text × Json) (members : List (Text × Json)) :
    (m :: members).lookup name = if name = m.1 then some m.2 else members.lookup name := by
  rw [List.lookup_cons]
  by_cases same : name = m.1
  · simp [same]
  · simp [same, beq_false_of_ne same]

/-- A member that is put in is found, and the others are found as before. -/
theorem lookup_insertMember (name other : Text) (value : Json) (sorted : List (Text × Json)) :
    (insertMember other value sorted).lookup name =
      if name = other then some value else sorted.lookup name := by
  induction sorted with
  | nil => rw [insertMember, lookup_cons_eq_ite]
  | cons head rest ih =>
      obtain ⟨key, old⟩ := head
      unfold insertMember
      by_cases replaced : other = key
      · subst replaced
        simp only [if_true, lookup_cons_eq_ite]
        split_ifs <;> rfl
      · simp only [replaced, if_false]
        split_ifs with before same same
        · rw [lookup_cons_eq_ite, if_pos same]
        · rw [lookup_cons_eq_ite, if_neg same]
        · subst same
          rw [lookup_cons_eq_ite, if_neg replaced, ih, if_pos rfl]
        · rw [lookup_cons_eq_ite, ih, if_neg same, lookup_cons_eq_ite]

theorem find?_concat (members : List (Text × Json)) (m : Text × Json) (name : Text) :
    find? (members ++ [m]) name = if name = m.1 then some m.2 else find? members name := by
  simp only [find?, canonical, List.foldl_append, List.foldl_cons, List.foldl_nil,
    lookup_insertMember]

/-- Of members with one name the last is found. -/
@[simp] theorem find?_append (xs ys : List (Text × Json)) (name : Text) :
    find? (xs ++ ys) name = (find? ys name).or (find? xs name) := by
  induction ys using List.reverseRecOn with
  | nil => rw [List.append_nil]; rfl
  | append_singleton ys m ih =>
      rw [← List.append_assoc, find?_concat, find?_concat, ih]
      split_ifs <;> rfl

section Written

variable (written : String) (name : Text)

@[simp] theorem find?_always (value : Json) :
    find? (always written value) name = if name = written.toList then some value else none :=
  find?_concat [] (written.toList, value) name

@[simp] theorem find?_ifPresent (value : Option Json) :
    find? (ifPresent written value) name = if name = written.toList then value else none := by
  cases value with
  | none =>
      rw [ite_self]
      rfl
  | some value => exact find?_always written name value

@[simp] theorem find?_unlessEmpty (ts : List Text) :
    find? (unlessEmpty written ts) name =
      if name = written.toList ∧ ts ≠ [] then some (.arr (ts.map .str)) else none := by
  cases ts with
  | nil =>
      rw [if_neg fun both => both.2 rfl]
      rfl
  | cons t ts =>
      refine (find?_always written name (.arr ((t :: ts).map .str))).trans ?_
      simp only [ne_eq, reduceCtorEq, not_false_eq_true, and_true]

end Written

end Json

open Json (find?)

/-! ## Fields -/

/-- A field finds its value among members. -/
def Field.Finds {α : Type} (f : Field α) (members : List (Text × Json)) (a : α) : Prop :=
  ∀ type index, (Record.named (Json.canonical members)).get type index f = .ok a

section Fields

variable {α : Type} {members : List (Text × Json)}

theorem Field.finds_of_some {name : Text} {decoder : Decoder α} {absent : Option α} (value : Json)
    {a : α} (found : find? members name = some value) (reads : decoder value = .ok a) :
    Field.Finds ⟨name, decoder, absent⟩ members a := by
  intro type index
  rw [find?] at found
  simp only [Record.get, found, reads]

theorem Field.finds_of_none {name : Text} {decoder : Decoder α} {a : α}
    (missing : find? members name = none) : Field.Finds ⟨name, decoder, some a⟩ members a := by
  intro type index
  rw [find?] at missing
  simp only [Record.get, missing]

/-! ## Decoders -/

/-- A list is read if its items are. -/
theorem Decoder.list_map {decoder : Decoder α} {encode : α → Json} {as : List α}
    (each : ∀ a ∈ as, decoder (encode a) = .ok a) :
    Decoder.list decoder (.arr (as.map encode)) = .ok as := by
  induction as with
  | nil => rfl
  | cons a as ih =>
      have first := each a List.mem_cons_self
      have rest := ih fun b member => each b (List.mem_cons_of_mem _ member)
      simp only [list, List.map_cons, List.mapM_cons, first] at rest ⊢
      rw [rest]
      rfl

theorem Decoder.word_int {limit n : Nat} (type : Text) (fits : n < limit) :
    Decoder.word limit type (.int n) = .ok n :=
  if_pos fits

/-! ## Texts and numbers -/

theorem Field.finds_text {name : Text} {absent : Option Text} {t : Text}
    (found : find? members name = some (.str t)) :
    Field.Finds ⟨name, Decoder.text, absent⟩ members t :=
  finds_of_some _ found rfl

/-- Texts that were left out for being none are none again. -/
theorem Field.finds_texts {name : Text} {ts : List Text}
    (found : find? members name = if ts ≠ [] then some (.arr (ts.map .str)) else none) :
    (Field.texts name).Finds members ts := by
  cases ts with
  | nil => exact finds_of_none found
  | cons t ts => exact finds_of_some _ found (Decoder.list_map fun _ _ => rfl)

theorem Field.finds_optionalText {name : Text} {t : Option Text}
    (found : find? members name = t.map .str) : (Field.optionalText name).Finds members t := by
  cases t with
  | none => exact finds_of_none found
  | some t => exact finds_of_some _ found rfl

theorem Field.finds_groupNumber {name : Text} {number : Option Nat}
    (found : find? members name = number.map fun n => .int n)
    (fits : ∀ n ∈ number, n < Decoder.limit32) : (Field.groupNumber name).Finds members number := by
  cases number with
  | none => exact finds_of_none found
  | some n =>
      refine finds_of_some _ found ?_
      show (Decoder.word _ _ (.int n)).map some = _
      rw [Decoder.word_int _ (fits n rfl)]
      rfl

/-! ## Records -/

/-- What is built without a fault is what is read. -/
theorem RecordType.decode_obj {type : RecordType} {tooLong : Nat → DataFault}
    {build : Record → Except DataFault α} {a : α}
    (built : build (.named (Json.canonical members)) = .ok a) :
    type.decode tooLong build (.obj members) = .ok a := by
  simp only [decode, built, Record.settle]

end Fields

end Beatsheet

/-
# Beatsheet.Proofs.Text.Bytes — texts and their bytes

A character below 128 is one byte, and none of the bytes of another character is that one
(`eq_of_mem_encode`), so a byte that stands for such a character shows where the character stands
(`exists_of_getElem?_bytes`). The places that any stretch of the characters begins and ends at
bound a slice (`slice?_append`).
-/
import Beatsheet.Source.Scan

set_option autoImplicit false

namespace Beatsheet.Text

variable {t front back : Text} {c d : Char} {n : Nat}

/-! ## One character -/

theorem encode_of_ascii (ascii : c.toNat < 128) : String.utf8EncodeChar c = [c.toUInt8] := by
  have low : c.val.toNat ≤ 127 := Nat.le_of_lt_succ ascii
  rw [String.utf8EncodeChar, if_pos low]
  rfl

theorem le_of_mem_encode (other : 128 ≤ d.toNat) :
    ∀ b ∈ String.utf8EncodeChar d, 128 ≤ b.toNat := by
  have value : d.val.toNat = d.toNat := rfl
  fun_cases String.utf8EncodeChar d with
  | case1 v low => omega
  | _ =>
      simp only [List.forall_mem_cons, List.not_mem_nil, false_implies, implies_true, and_true,
        UInt8.toNat_ofNat']
      omega

theorem toNat_toUInt8 (ascii : c.toNat < 128) : c.toUInt8.toNat = c.toNat :=
  Nat.mod_eq_of_lt (Nat.lt_trans ascii (by decide))

/-- The byte of a character below 128 is among the bytes of no other. -/
theorem eq_of_mem_encode (ascii : c.toNat < 128)
    (member : c.toUInt8 ∈ String.utf8EncodeChar d) : d = c := by
  have low : d.toNat < 128 := by
    rcases Nat.lt_or_ge d.toNat 128 with low | other
    · exact low
    · have high := le_of_mem_encode other _ member
      rw [toNat_toUInt8 ascii] at high
      omega
  rw [encode_of_ascii low, List.mem_singleton] at member
  have same : c.toNat = d.toNat := by
    rw [← toNat_toUInt8 ascii, member, toNat_toUInt8 low]
  exact (Char.toNat_inj.mp same).symm

/-! ## All of them -/

/-- The bytes of a text in UTF-8. -/
def bytes (t : Text) : List UInt8 :=
  t.flatMap String.utf8EncodeChar

@[simp] theorem bytes_nil : bytes [] = [] := rfl

@[simp] theorem bytes_cons : bytes (c :: t) = String.utf8EncodeChar c ++ bytes t := rfl

@[simp] theorem bytes_append : bytes (front ++ back) = bytes front ++ bytes back :=
  List.flatMap_append

theorem mem_bytes (ascii : c.toNat < 128) (member : c ∈ t) : c.toUInt8 ∈ bytes t := by
  refine List.mem_flatMap.mpr ⟨c, member, ?_⟩
  rw [encode_of_ascii ascii]
  exact List.mem_singleton_self _

/-- A text begins with a character below 128 if its bytes begin with that of the character. -/
theorem head?_bytes (ascii : c.toNat < 128) :
    (bytes t).head? = some c.toUInt8 ↔ t.head? = some c := by
  cases t with
  | nil => simp
  | cons d rest =>
      obtain ⟨b, others, encoded⟩ :=
        List.exists_cons_of_ne_nil (String.utf8EncodeChar_ne_nil (c := d))
      have first : (bytes (d :: rest)).head? = some b := by simp [encoded]
      rw [first, List.head?_cons, Option.some_inj, Option.some_inj]
      constructor
      · rintro rfl
        exact eq_of_mem_encode ascii (encoded ▸ List.mem_cons_self)
      · rintro rfl
        rw [encode_of_ascii ascii] at encoded
        exact (List.cons.inj encoded).1.symm

/-- Where the byte of a character below 128 stands, that character stands. -/
theorem exists_of_getElem?_bytes (ascii : c.toNat < 128)
    (there : (bytes t)[n]? = some c.toUInt8) :
    ∃ front back, t = front ++ c :: back ∧ (bytes front).length = n := by
  induction t generalizing n with
  | nil => simp at there
  | cons d rest ih =>
      rw [bytes_cons] at there
      rcases Nat.lt_or_ge n (String.utf8EncodeChar d).length with first | later
      · rw [List.getElem?_append_left first] at there
        obtain rfl : d = c := eq_of_mem_encode ascii (List.mem_of_getElem? there)
        rw [encode_of_ascii ascii, List.length_singleton, Nat.lt_one_iff] at first
        exact ⟨[], rest, rfl, first.symm⟩
      · rw [List.getElem?_append_right later] at there
        obtain ⟨front, back, rfl, length⟩ := ih there
        refine ⟨d :: front, back, rfl, ?_⟩
        rw [bytes_cons, List.length_append, length]
        omega

/-! ## Places -/

theorem toByteArray_ofList (t : Text) :
    (String.ofList t).toByteArray = (bytes t).toByteArray := rfl

theorem size_ofList (t : Text) : (String.ofList t).toByteArray.size = (bytes t).length := by
  rw [toByteArray_ofList, List.size_toByteArray]

theorem getElem?_ofList (t : Text) (n : Nat) :
    (String.ofList t).toByteArray[n]? = (bytes t)[n]? := by
  have size := size_ofList t
  by_cases within : n < (bytes t).length
  · rw [List.getElem?_eq_getElem within, getElem?_pos _ n (size ▸ within)]
    exact congrArg some List.getElem_toByteArray
  · rw [List.getElem?_eq_none (Nat.le_of_not_lt within), getElem?_neg _ n (size ▸ within)]

/-- Where a beginning of a text ends, it can be cut. -/
theorem isValid_append (front back : Text) :
    String.Pos.Raw.IsValid (String.ofList (front ++ back)) ⟨(bytes front).length⟩ := by
  rw [String.Pos.Raw.isValid_iff_exists_append]
  refine ⟨.ofList front, .ofList back, String.ofList_append, ?_⟩
  rw [String.Pos.Raw.ext_iff, String.byteIdx_rawEndPos, ← String.size_toByteArray, size_ofList]

/-- The characters of a slice. -/
def ofSlice (slice : String.Slice) : Text :=
  slice.copy.toList

/-- Between the ends of two beginnings of a text is a slice: what the longer one has more. -/
theorem slice?_append (front line back : Text) :
    ∃ slice, slice? (String.ofList (front ++ line ++ back)) (bytes front).length
        (bytes (front ++ line)).length = some slice ∧
      slice.str = String.ofList (front ++ line ++ back) ∧ ofSlice slice = line := by
  have ordered : (bytes front).length ≤ (bytes (front ++ line)).length := by simp
  have start : String.Pos.Raw.IsValid (String.ofList (front ++ line ++ back))
      ⟨(bytes front).length⟩ := by
    rw [List.append_assoc]
    exact isValid_append front (line ++ back)
  have stop := isValid_append (front ++ line) back
  refine ⟨_, dif_pos ⟨ordered, start, stop⟩, rfl, ?_⟩
  rw [ofSlice, ← String.ofList_inj, String.ofList_toList, ← String.toByteArray_inj,
    String.Slice.toByteArray_copy]
  let part (t : Text) : ByteArray := (bytes t).toByteArray
  calc (part (front ++ line ++ back)).extract (bytes front).length (bytes (front ++ line)).length
      = (part front ++ (part line ++ part back)).extract ((part front).size + 0)
          ((part front).size + (part line).size) := by
        simp [part, List.toByteArray_append]
    _ = (part line ++ part back).extract 0 (part line).size := ByteArray.extract_append_size_add
    _ = part line := ByteArray.extract_append_eq_left rfl

end Beatsheet.Text

/-
# Beatsheet.Proofs.Source.Scan — the lines that the bytes show

Every text is lines with ends between them in just one way, if no line holds a character that ends
lines and no CR that ends a line has an LF right behind it (`Lined`): the lines are those of
`Text.lines` (`lined_iff`).

One pass over the bytes takes the same lines as slices. The byte that it comes to next may be inside
a character, but a byte that ends a line is all of one, so there is a slice wherever the pass takes
one. What it knows at any place is `Reads`: the lines that have ended are all those in front of the
place where its line begins, and no byte from there on has ended a line. Every byte keeps this
(`Reads.step`), and so the pass finds all lines (`Reads.run?`).
-/
import Beatsheet.Proofs.Text.Bytes
import Beatsheet.Proofs.Text.Unbroken

set_option autoImplicit false

namespace Beatsheet

open Text

/-! ## Lines and their ends -/

/-- The text is these lines, with ends of lines between them: none of the lines is broken, and no CR
that ends one is the beginning of a CR LF. -/
inductive Lined : Text → List Text → Prop where
  | last (line : Text) (unbroken : Unbroken line) : Lined line [line]
  | ended (line : Text) (e : LineEnd) {rest : Text} {lines : List Text} (unbroken : Unbroken line)
      (apart : e = .cr → rest.head? ≠ some '\n') (more : Lined rest lines) :
      Lined (line ++ (e.text ++ rest)) (line :: lines)

variable {t front back line rest : Text} {lines : List Text} {c : Char}

theorem Lined.cons (plain : isBreak c = false) (lined : Lined t lines) :
    Lined (c :: t) (consHead c lines) := by
  cases lined with
  | last _ unbroken => exact .last (c :: t) (unbroken_cons.mpr ⟨plain, unbroken⟩)
  | ended line e unbroken apart more =>
      exact .ended (c :: line) e (unbroken_cons.mpr ⟨plain, unbroken⟩) apart more

theorem lined_lines (t : Text) : Lined t (Text.lines t) := by
  fun_induction Text.lines t with
  | case1 => exact .last [] unbroken_nil
  | case2 rest ih => exact .ended [] .crlf unbroken_nil (by simp) ih
  | case3 c rest apart ends ih =>
      rcases isBreak_iff.mp ends with rfl | rfl
      · exact .ended [] .lf unbroken_nil (by simp) ih
      · refine .ended [] .cr unbroken_nil (fun _ paired => ?_) ih
        obtain ⟨behind, rfl⟩ := List.head?_eq_some_iff.mp paired
        exact apart behind rfl rfl
  | case4 c rest apart plain ih => exact .cons (Bool.eq_false_iff.mpr plain) ih

/-- **A text is lines with ends between them in one way.** -/
theorem lined_iff : Lined t lines ↔ lines = Text.lines t := by
  constructor
  · intro lined
    induction lined with
    | last line unbroken => exact (lines_of_unbroken unbroken).symm
    | ended line e unbroken apart more ih => rw [lines_append_text e unbroken apart, ih]
  · rintro rfl
    exact lined_lines t

/-! ## What a pass knows -/

namespace ByteScan

/-- What a pass over `t` has found out when its line begins where `front` ends. -/
structure Reads (t : Text) (scan : ByteScan) (front back : Text) : Prop where
  whole : t = front ++ back
  start : (bytes front).length = scan.start
  ordered : scan.start ≤ scan.next
  within : scan.next ≤ (bytes t).length
  plain : ∀ c, isBreak c = true → c.toUInt8 ∉ (bytes back).take (scan.next - scan.start)
  sliced : ∀ slice ∈ scan.ended, slice.str = String.ofList t
  found : Text.lines t = scan.ended.map ofSlice ++ Text.lines back

variable {scan : ByteScan}

theorem reads_start (t : Text) : Reads t ⟨0, 0, []⟩ [] t where
  whole := rfl
  start := rfl
  ordered := Nat.le_refl 0
  within := Nat.zero_le _
  plain := by simp
  sliced := List.forall_mem_nil _
  found := rfl

/-- Up to the next byte the line that the pass is in is unbroken. -/
theorem Reads.unbroken (reads : Reads t scan front (line ++ rest))
    (here : (bytes (front ++ line)).length = scan.next) : Unbroken line := by
  intro c member
  have length : scan.next - scan.start = (bytes line).length := by
    rw [← here, ← reads.start, bytes_append, List.length_append]
    omega
  by_contra broken
  have ends : isBreak c = true := eq_true_of_ne_false broken
  refine reads.plain c ends ?_
  rw [length, bytes_append, List.take_left]
  exact mem_bytes (ascii_of_isBreak ends) member

/-- It is the slice up to there. -/
theorem Reads.exists_slice (reads : Reads t scan front (line ++ rest))
    (here : (bytes (front ++ line)).length = scan.next) :
    ∃ slice, slice? (String.ofList t) scan.start scan.next = some slice ∧
      slice.str = String.ofList t ∧ ofSlice slice = line := by
  have slice := slice?_append front line rest
  rwa [List.append_assoc, ← reads.whole, reads.start, here] at slice

/-- Where an end of a line stands, the line is taken and another begins behind it. -/
theorem Reads.endLine? (e : LineEnd) (reads : Reads t scan front (line ++ (e.text ++ rest)))
    (here : (bytes (front ++ line)).length = scan.next)
    (apart : e = .cr → rest.head? ≠ some '\n') :
    ∃ later front' back',
      scan.endLine? (String.ofList t) (scan.next + e.text.length) = some later ∧
        Reads t later front' back' := by
  obtain ⟨slice, taken, same, spells⟩ := reads.exists_slice here
  have whole : t = front ++ line ++ e.text ++ rest := by simp [reads.whole]
  have start : (bytes (front ++ line ++ e.text)).length = scan.next + e.text.length := by
    have width : (bytes e.text).length = e.text.length := by cases e <;> rfl
    rw [bytes_append, List.length_append, here, width]
  refine ⟨_, front ++ line ++ e.text, rest, by rw [ByteScan.endLine?, taken]; rfl, ?_⟩
  constructor
  case whole => exact whole
  case start => exact start
  case ordered => exact Nat.le_refl _
  case within =>
    rw [whole, bytes_append, List.length_append, start]
    exact Nat.le_add_right _ _
  case plain => simp
  case sliced =>
    exact List.forall_mem_append.mpr ⟨reads.sliced, List.forall_mem_singleton.mpr same⟩
  case found =>
    rw [reads.found, lines_append_text e (reads.unbroken here) apart, List.map_append,
      List.append_assoc, ← spells]
    rfl

/-- The byte behind a CR shows whether an LF is behind it. -/
theorem Reads.paired_iff (reads : Reads t scan front (line ++ '\r' :: rest))
    (here : (bytes (front ++ line)).length = scan.next) :
    (String.ofList t).toByteArray[scan.next + 1]? = some '\n'.toUInt8 ↔
      rest.head? = some '\n' := by
  have whole : t = front ++ line ++ ['\r'] ++ rest := by simp [reads.whole]
  have length : (bytes (front ++ line ++ ['\r'])).length = scan.next + 1 := by
    rw [bytes_append, List.length_append, here]
    rfl
  rw [← head?_bytes (by decide), getElem?_ofList, whole, bytes_append,
    List.getElem?_append_right (Nat.le_of_eq length), length, Nat.sub_self, List.head?_eq_getElem?]

/-- A byte that ends no line leaves the pass in its line. -/
theorem Reads.pass {byte : UInt8} (reads : Reads t scan front back)
    (there : (bytes back)[scan.next - scan.start]? = some byte)
    (within : scan.next < (bytes t).length) (plain : ∀ c, isBreak c = true → c.toUInt8 ≠ byte) :
    Reads t { scan with next := scan.next + 1 } front back := by
  refine { reads with
    ordered := Nat.le_succ_of_le reads.ordered
    within := within
    plain := fun c ends => ?_ }
  rw [Nat.succ_sub reads.ordered, List.take_add_one, there, List.mem_append, not_or]
  exact ⟨reads.plain c ends, by simpa using plain c ends⟩

/-- **Every byte keeps what the pass knows**, and the pass goes on behind it. -/
theorem Reads.step (reads : Reads t scan front back)
    (within : scan.next < (String.ofList t).toByteArray.size) :
    ∃ later front' back', scan.step? (String.ofList t) within = some later ∧
      Reads t later front' back' := by
  obtain ⟨byte, here⟩ : ∃ byte, (String.ofList t).toByteArray[scan.next] = byte := ⟨_, rfl⟩
  have ordered := reads.ordered
  have start := reads.start
  have there : (bytes back)[scan.next - scan.start]? = some byte := by
    rw [← here, ← getElem?_pos _ scan.next within, getElem?_ofList, reads.whole, bytes_append,
      List.getElem?_append_right (by omega), start]
  have place {line : Text} (length : (bytes line).length = scan.next - scan.start) :
      (bytes (front ++ line)).length = scan.next := by
    rw [bytes_append, List.length_append]
    omega
  rw [step?]
  simp only [here]
  split
  case isTrue return_ =>
    subst return_
    obtain ⟨line, rest, rfl, length⟩ := exists_of_getElem?_bytes (by decide) there
    simp only [reads.paired_iff (place length)]
    split
    case isTrue paired =>
      obtain ⟨rest, rfl⟩ := List.head?_eq_some_iff.mp paired
      exact reads.endLine? .crlf (place length) (by simp)
    case isFalse apart =>
      exact reads.endLine? .cr (place length) fun _ => apart
  case isFalse noReturn =>
    split
    case isTrue feed =>
      subst feed
      obtain ⟨line, rest, rfl, length⟩ := exists_of_getElem?_bytes (by decide) there
      exact reads.endLine? .lf (place length) (by simp)
    case isFalse noFeed =>
      refine ⟨_, front, back, rfl, reads.pass there (size_ofList t ▸ within) ?_⟩
      intro c ends
      rcases isBreak_iff.mp ends with rfl | rfl
      · exact Ne.symm noFeed
      · exact Ne.symm noReturn

/-- At the end of the text what is left is one line, and it is a slice. -/
theorem Reads.last (reads : Reads t scan front back)
    (through : ¬ scan.next < (String.ofList t).toByteArray.size) :
    ∃ slice, slice? (String.ofList t) scan.start (String.ofList t).toByteArray.size = some slice ∧
      slice.str = String.ofList t ∧ ofSlice slice = back ∧ Unbroken back := by
  have whole : Reads t scan front (back ++ []) := by rwa [List.append_nil]
  have size : (bytes (front ++ back)).length = (String.ofList t).toByteArray.size := by
    rw [size_ofList, reads.whole]
  have here : scan.next = (String.ofList t).toByteArray.size := by
    have within := reads.within
    rw [← size_ofList] at within
    omega
  obtain ⟨slice, taken, same, spells⟩ := whole.exists_slice (size.trans here.symm)
  rw [here] at taken
  exact ⟨slice, taken, same, spells, whole.unbroken (size.trans here.symm)⟩

/-- **A pass finds the lines of the text**, from wherever it goes on. -/
theorem Reads.run? (reads : Reads t scan front back) :
    ∃ slices, scan.run? (String.ofList t) = some slices ∧
      (∀ slice ∈ slices, slice.str = String.ofList t) ∧ slices.map ofSlice = Text.lines t := by
  -- The induction is on the bytes that are left; each of them keeps what is known.
  fun_induction ByteScan.run? (String.ofList t) scan generalizing front back with
  | case1 scan within later goesOn _ ih =>
      obtain ⟨_, front', back', same, known⟩ := reads.step within
      obtain rfl := Option.some.inj (goesOn.symm.trans same)
      exact ih known
  | case2 scan within refused =>
      obtain ⟨later, -, -, goesOn, -⟩ := reads.step within
      rw [refused] at goesOn
      cases goesOn
  | case3 scan through =>
      obtain ⟨slice, taken, same, spells, unbroken⟩ := reads.last through
      refine ⟨_, by rw [taken]; rfl, ?_, ?_⟩
      · exact List.forall_mem_append.mpr ⟨reads.sliced, List.forall_mem_singleton.mpr same⟩
      · rw [reads.found, lines_of_unbroken unbroken, List.map_append, ← spells]
        rfl

end ByteScan

/-! ## Numbers -/

theorem SourceLine.number_eq (path : Text) (first : Nat) (lines : List Text) :
    SourceLine.number path first lines =
      lines.mapIdx fun n line => ⟨line, ⟨path, first + n⟩⟩ := by
  induction lines generalizing first with
  | nil => rfl
  | cons line lines ih =>
      rw [SourceLine.number, ih, List.mapIdx_cons]
      simp only [Nat.add_assoc, Nat.add_comm 1, Nat.add_zero]

/-- **The pass over the bytes of a text takes its lines as slices.** There is a slice wherever it
takes one, between characters of the text. The lines are the only ones with ends of lines between
them that make the text, and those of a source without its comments are numbered from one on. -/
theorem ByteScan.lines?_lined :
    (∀ t : Text,
        (∃ slices, ByteScan.lines? t = some slices ∧
          (∀ slice ∈ slices, slice.str = String.ofList t) ∧
          slices.map ofSlice = Text.lines t) ∧
        Lined t (Text.lines t) ∧ ∀ lines, Lined t lines → lines = Text.lines t) ∧
      ∀ path source : Text, source.dropWhile (· == '\uFEFF') ≠ [] →
        SourceLine.ofSource path source =
          (Text.lines (BlockComment.strip (source.dropWhile (· == '\uFEFF')))).mapIdx
            fun n line => ⟨line, ⟨path, n + 1⟩⟩ := by
  refine ⟨fun t => ⟨(reads_start t).run?, lined_lines t, fun lines => lined_iff.mp⟩, ?_⟩
  intro path source some_
  obtain ⟨c, rest, body⟩ := List.exists_cons_of_ne_nil some_
  rw [SourceLine.ofSource, body]
  simp only [SourceLine.number_eq, Nat.add_comm 1]

/-- Characters of several bytes, all ends of lines, and a comment that parts a CR from an LF. -/
theorem ByteScan.lines?_lined_of_mixed :
    let source := "\uFEFF\uFEFFé\r\n∀\r/* x */\n\n𝒫\r".toList
    let t := "é\r\n∀\r\n\n𝒫\r".toList
    let lines : List Text := [['é'], ['∀'], [], ['𝒫'], []]
    let numbered (n : Nat) (line : Text) : SourceLine := ⟨line, ⟨"t.ink".toList, n⟩⟩
    source.dropWhile (· == '\uFEFF') ≠ [] ∧ Lined t lines ∧
      (∃ slices, ByteScan.lines? t = some slices ∧ slices.map ofSlice = lines) ∧
      SourceLine.ofSource "t.ink".toList source =
        [numbered 1 ['é'], numbered 2 ['∀'], numbered 3 [], numbered 4 ['𝒫'], numbered 5 []] := by
  intro source t lines numbered
  have some_ : source.dropWhile (· == '\uFEFF') ≠ [] := by decide
  have lined : Lined t lines :=
    .ended ['é'] .crlf (by decide) (by simp) <| .ended ['∀'] .crlf (by decide) (by simp) <|
      .ended [] .lf (by decide) (by simp) <| .ended ['𝒫'] .cr (by decide) (by decide) <|
        .last [] (by decide)
  obtain ⟨⟨slices, taken, -, spells⟩, -, unique⟩ := ByteScan.lines?_lined.1 t
  have ofSource := ByteScan.lines?_lined.2 "t.ink".toList source some_
  exact ⟨some_, lined, ⟨slices, taken, spells.trans (unique lines lined).symm⟩,
    ofSource.trans (by decide)⟩

end Beatsheet

/-
# Beatsheet.Proofs.Line.Capture — the run of tags behind a beat

A line of speech or of action ends with its text and a run of tags (`Speech.run?`, `Action.run?`).
All that a beat knows of identifier and tags it has from that run (`Speech.ofLine?_eq`,
`Action.ofLine?_eq`), and on a line without line breaks it is told all that the tokens of the run
declare just if nothing but spaces and tabs part them (`captured_tags`). With any other blank among
them, such as a no-break space, the beat has neither an identifier nor tags, though its text ends
before the run all the same.
-/
import Beatsheet.Proofs.Line.Speech
import Beatsheet.Proofs.Tag.Run

set_option autoImplicit false

namespace Beatsheet

open Text

/-! ## Parts -/

/-- The parts of a line of speech, before its tags are read. -/
structure Speech.Capture where
  speaker : Text
  qualifier : Option Text
  direction : Option Text
  text : Text
  run : Text

/-- The parts of a line of speech: it is read as by `Speech.ofLine?`, but for the tags. -/
def Speech.capture? (line : Text) : Option Speech.Capture :=
  let start := Line.afterDash line
  let speaker := start.takeWhile Line.isSpeakerChar
  if speaker.isEmpty then none
  else
    (Line.asides (trimStart (start.dropWhile Line.isSpeakerChar))).findSome?
      fun (qualifier, tail) =>
        match trimStart tail with
        | ':' :: tail =>
          (Line.asides (trimStart tail)).findSome? fun (direction, tail) =>
            (Line.body? (trimStart tail)).map fun (text, run) =>
              ⟨speaker, qualifier, direction, text, run⟩
        | _ => none

/-- The text of a line of action, and the run behind it. -/
def Action.capture? (line : Text) : Option (Text × Text) :=
  (Line.body? (Line.afterDash line)).filter fun (_, run) => !(words run).isEmpty

/-- The run of tags of a line of speech, without the blanks behind it. -/
def Speech.run? (line : Text) : Option Text :=
  (capture? line).map fun c => trimEnd c.run

/-- The run of tags of a line of action, without the blanks behind it. -/
def Action.run? (line : Text) : Option Text :=
  (capture? line).map fun (_, run) => trimEnd run

namespace Line

theorem suffix_of_mem_asides {t tail : Text} {aside : Option Text}
    (member : (aside, tail) ∈ asides t) : tail <:+ t := by
  rcases mem_asides member with ⟨-, rfl⟩ | ⟨inside, -, rfl⟩
  · exact List.suffix_rfl
  · exact ⟨'(' :: inside ++ [')'], by simp⟩

/-- A text and the run behind it. -/
theorem of_body? {t text run : Text} (found : body? t = some (text, run)) :
    t = text ++ run ∧ Tag.isRun run = true := by
  unfold body? at found
  split at found
  · cases found
  · rename_i c rest
    rw [Option.ite_none_right_eq_some] at found
    obtain ⟨rfl, rfl⟩ := Prod.mk.inj (Option.some.inj found.2)
    exact ⟨by rw [List.cons_append, Tag.splitRun_append], Tag.isRun_splitRun rest⟩

end Line

namespace Speech

variable {line : Text}

theorem ofLine?_eq (line : Text) :
    ofLine? line = (capture? line).map fun c =>
      ⟨c.speaker, c.qualifier, c.direction, c.text, (Tag.read c.run).1, (Tag.read c.run).2⟩ := by
  unfold ofLine? capture?
  dsimp only
  by_cases named : ((Line.afterDash line).takeWhile Line.isSpeakerChar).isEmpty = true
  · rw [if_pos named, if_pos named]
    rfl
  · rw [if_neg named, if_neg named, List.map_findSome?]
    congr 1
    funext ⟨qualifier, tail⟩
    dsimp only [Function.comp]
    cases trimStart tail with
    | nil => rfl
    | cons c rest =>
        by_cases colon : c = ':'
        · subst colon
          show List.findSome? _ _ = Option.map _ (List.findSome? _ _)
          rw [List.map_findSome?]
          congr 1
          funext ⟨direction, behind⟩
          dsimp only [Function.comp]
          rw [Option.map_map]
          rfl
        · simp [colon]

/-- The text and the run end the line. -/
theorem suffix_of_capture? {c : Capture} (found : capture? line = some c) :
    c.text ++ c.run <:+ line ∧ Tag.isRun c.run = true := by
  unfold capture? at found
  dsimp only at found
  split at found
  · cases found
  · obtain ⟨⟨qualifier, tail⟩, aside, found⟩ := List.exists_of_findSome?_eq_some found
    dsimp only at found
    split at found
    · rename_i rest colon
      obtain ⟨⟨direction, behind⟩, second, found⟩ := List.exists_of_findSome?_eq_some found
      obtain ⟨⟨text, run⟩, body, rfl⟩ := Option.map_eq_some_iff.mp found
      obtain ⟨parts, isRun_⟩ := Line.of_body? body
      refine ⟨?_, isRun_⟩
      have inner : text ++ run <:+ rest :=
        parts ▸ (suffix_trimStart behind).trans
          ((Line.suffix_of_mem_asides second).trans (suffix_trimStart rest))
      have outer : ':' :: rest <:+ (Line.afterDash line).dropWhile Line.isSpeakerChar :=
        colon ▸ (suffix_trimStart tail).trans
          ((Line.suffix_of_mem_asides aside).trans (suffix_trimStart _))
      have whole : ':' :: rest <:+ line :=
        outer.trans ((List.dropWhile_suffix _).trans (Line.suffix_afterDash line))
      exact inner.trans ((List.suffix_cons ':' rest).trans whole)
    · cases found

end Speech

namespace Action

variable {line : Text}

theorem ofLine?_eq (line : Text) :
    ofLine? line = (capture? line).map fun (text, run) =>
      ⟨text, (Tag.read run).1, (Tag.read run).2⟩ := by
  unfold ofLine? capture?
  cases Line.body? (Line.afterDash line) with
  | none => rfl
  | some parts =>
      obtain ⟨text, run⟩ := parts
      by_cases none_ : words run = []
      · simp [Option.filter, none_]
      · simp [Option.filter, none_, Tag.read]

theorem suffix_of_capture? {text run : Text} (found : capture? line = some (text, run)) :
    text ++ run <:+ line ∧ Tag.isRun run = true := by
  obtain ⟨body, -⟩ := Option.filter_eq_some_iff.mp found
  obtain ⟨parts, isRun_⟩ := Line.of_body? body
  exact ⟨parts ▸ Line.suffix_afterDash line, isRun_⟩

end Action

/-! ## Tags of beats -/

/-- What becomes of a run of tags: all that its tokens declare is read off just if only spaces and
tabs part them, and nothing is read off otherwise. -/
structure Tag.ReadOff (run id : Text) (tags : List Text) : Prop where
  groups : Groups run
  declares_iff : Declares (tokens run) id tags ↔
    ∀ c ∈ run, isBlank c = true → c = ' ' ∨ c = '\t'
  lost : ¬ Declares (tokens run) id tags → id = [] ∧ tags = []

/-- A run behind which nothing but blanks stand, on a line without line breaks. -/
theorem Tag.readOff_read {line run : Text} (whole : line.any isBreak = false)
    (isRun_ : isRun run = true) (within : run <:+ line) :
    ReadOff (trimEnd run) (read run).1 (read run).2 := by
  have gaps : (∀ c ∈ trimEnd run, isBlank c = true → isGap c = true) ↔
      ∀ c ∈ trimEnd run, isBlank c = true → c = ' ' ∨ c = '\t' := by
    refine forall₂_congr fun c member => imp_congr_right fun _ => ?_
    have unbroken : isBreak c = false :=
      Bool.eq_false_iff.mpr (List.any_eq_false.mp whole c
        (within.subset ((prefix_trimEnd run).subset member)))
    simp [isGap, unbroken]
  have exact_ := declares_read_iff isRun_
  have same : tokens (trimEnd run) = tokens run := by rw [tokens, tokens, words_trimEnd]
  refine ⟨groups_trimEnd isRun_, by rw [same, exact_, gaps], fun other => ?_⟩
  rw [same, exact_] at other
  rw [read_eq_nil other]
  exact ⟨rfl, rfl⟩

/-- **What a beat has from its run of tags.** On a line without line breaks the run stands behind the
text of the beat, at the end of the line, and the identifier and the tags of the beat are read off
it. -/
theorem captured_tags {line : Text} (whole : line.any isBreak = false) :
    (∀ s, Speech.ofLine? line = some s → ∃ run blanks, Speech.run? line = some run ∧
      (∀ c ∈ blanks, isBlank c = true) ∧ s.text ++ run ++ blanks <:+ line ∧
      Tag.ReadOff run s.id s.tags) ∧
    (∀ a, Action.ofLine? line = some a → ∃ run blanks, Action.run? line = some run ∧
      (∀ c ∈ blanks, isBlank c = true) ∧ a.text ++ run ++ blanks <:+ line ∧
      Tag.ReadOff run a.id a.tags) := by
  constructor
  · intro s speech
    rw [Speech.ofLine?_eq] at speech
    obtain ⟨c, found, rfl⟩ := Option.map_eq_some_iff.mp speech
    obtain ⟨ends, isRun_⟩ := Speech.suffix_of_capture? found
    obtain ⟨blanks, blank, split⟩ := exists_trimEnd c.run
    refine ⟨trimEnd c.run, blanks, by rw [Speech.run?, found]; rfl, blank, ?_, ?_⟩
    · rwa [List.append_assoc, ← split]
    · exact Tag.readOff_read whole isRun_ ((List.suffix_append _ _).trans ends)
  · intro a action
    rw [Action.ofLine?_eq] at action
    obtain ⟨⟨text, run⟩, found, rfl⟩ := Option.map_eq_some_iff.mp action
    obtain ⟨ends, isRun_⟩ := Action.suffix_of_capture? found
    obtain ⟨blanks, blank, split⟩ := exists_trimEnd run
    refine ⟨trimEnd run, blanks, by rw [Action.run?, found]; rfl, blank, ?_, ?_⟩
    · rwa [List.append_assoc, ← split]
    · exact Tag.readOff_read whole isRun_ ((List.suffix_append _ _).trans ends)

/-- Hashes in the text and inside a tag, a tab between the tags, and a second identifier. -/
theorem captured_tags_of_hashes :
    let line : Text := "- FRED (q #1): (low) C #2 is #a#b\t#id:n  #id:m #] ".toList
    let s : Speech :=
      ⟨"FRED".toList, some "q #1".toList, some "low".toList, "C #2 is".toList, "n".toList,
        ["a#b".toList, "id:m".toList, "]".toList]⟩
    line.any isBreak = false ∧ Speech.ofLine? line = some s ∧
      ∃ run, Speech.run? line = some run ∧ Tag.Declares (Tag.tokens run) s.id s.tags := by
  intro line s
  have whole : line.any isBreak = false := by decide +kernel
  have speech : Speech.ofLine? line = some s := by decide +kernel
  have gaps : (Speech.run? line).all (·.all fun c => !isBlank c || c == ' ' || c == '\t') = true := by
    decide +kernel
  obtain ⟨run, blanks, found, -, -, read⟩ := (captured_tags whole).1 s speech
  rw [found, Option.all_some, List.all_eq_true] at gaps
  refine ⟨whole, speech, run, found, read.declares_iff.mpr fun c member blank => ?_⟩
  simpa [blank] using gaps c member

/-- A no-break space before the tags, and the beat has none of them. -/
theorem not_always_declared :
    ¬ ∀ (line run : Text) (s : Speech), line.any isBreak = false →
      Speech.ofLine? line = some s → Speech.run? line = some run →
      Tag.Declares (Tag.tokens run) s.id s.tags := by
  intro always
  have declares := always "FRED: Hi\u00a0#id:a".toList "\u00a0#id:a".toList
    ⟨"FRED".toList, none, none, "Hi".toList, [], []⟩
    (by decide +kernel) (by decide +kernel) (by decide +kernel)
  have none_ := declares.eq_nil
  revert none_
  decide +kernel

end Beatsheet

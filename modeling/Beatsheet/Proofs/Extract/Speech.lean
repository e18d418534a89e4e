/-
# Beatsheet.Proofs.Extract.Speech — speech behind a dash

What behind a dash can be read as speech, with a speaker that a capital leads, turns the flow as
speech, and if its qualifier holds neither a colon nor a closing bracket it is no clause
(`step_dashSpeech`). So it keeps what waits for its own beat, unless its braces turn the flow before
that, and is not complained of for content behind a clause. Where the speaker is led by a digit, or
the qualifier holds a colon or a closing bracket, the tests need not agree
(`not_always_dashSpeech`): the line may be a clause with content behind it.
-/
import Beatsheet.Proofs.Draft.Speech
import Beatsheet.Proofs.Extract.Comments
import Beatsheet.Proofs.Extract.Report

set_option autoImplicit false

namespace Beatsheet

open Text

variable {text : Text} {s : Speech}

namespace Line

/-- Speech behind a dash, as the parts of the line tell it. -/
theorem exists_afterDash (dash : text.head? = some '-') :
    ∃ rest, text = '-' :: rest ∧ afterDash text = trimStart rest := by
  cases text with
  | nil => cases dash
  | cons c rest =>
      obtain rfl := Option.some.inj dash
      exact ⟨rest, rfl, rfl⟩

theorem isDashSpeech_of_speech (trimmed : trim text = text) (whole : '\n' ∉ text)
    (dash : text.head? = some '-') (speech : Speech.ofLine? text = some s)
    (capital : s.speaker.head?.any Char.isUpper = true) : isDashSpeech text = true := by
  obtain ⟨rest, rfl, behind⟩ := exists_afterDash dash
  obtain ⟨some_, -, between, said, -, -, parts⟩ := Speech.parts speech
  obtain ⟨c, more, name⟩ := List.exists_cons_of_ne_nil some_
  rw [name] at capital
  rw [behind, name, List.cons_append, List.cons_append] at parts
  have unbroken : '\n' ∉ more ++ between ++ ':' :: said := by
    intro member
    refine whole (List.mem_cons_of_mem _ (trimStart_subset rest ?_))
    rw [parts]
    exact List.mem_cons_of_mem c member
  have colon : (before '\n' (more ++ between ++ ':' :: said)).contains ':' = true := by
    rw [before_of_not_mem unbroken]
    simp
  simp only [isDashSpeech, trimmed, parts, colon, Bool.and_true]
  exact capital

theorem label?_dash (rest : Text) : label? ('-' :: rest) = none := by
  simp [label?, isLabelStart]

theorem isStatement_dash (rest : Text) : isStatement ('-' :: rest) = false := by
  rfl

end Line

/-- **The tests of speech behind a dash agree**, where a capital leads the speaker. Such a line turns
the flow as speech; if its qualifier holds neither a colon nor a closing bracket it is no clause, and
no error is reported of it. Where the annotation is on and a scene is open, it becomes a beat, which
takes all that waits if the braces of the line balance. -/
theorem step_dashSpeech (trimmed : trim text = text) (whole : text.any isBreak = false)
    (dash : text.head? = some '-') (speech : Speech.ofLine? text = some s)
    (capital : s.speaker.head?.any Char.isUpper = true) :
    Line.isDashSpeech text = true ∧
      ((∀ q, s.qualifier = some q → ':' ∉ q ∧ ')' ∉ q) →
        Clause.ofLine? text = none ∧
          ∀ (d : Draft) (line : SourceLine), line.body = text →
            (d.step line).diagnostics.filter Diagnostic.isError =
              d.diagnostics.filter Diagnostic.isError) ∧
      ∀ (d : Draft) (line : SourceLine), line.body = text → d.cascade.active = true →
        d.opened.isSome = true →
        ∃ comments, (d.step line).beats = d.beats ++
            [{ id := s.id, comments, tags := d.cascade.apply s.tags, origin := line.origin,
               text := s.text, part := .line s.speaker s.qualifier s.direction }] ∧
          (Brace.ofLine? text = none → comments = d.pending ++ line.trailing) := by
  have unbroken : '\n' ∉ text := fun member => by
    have all := List.any_eq_false.mp whole '\n' member
    exact all (by decide)
  have agrees := Line.isDashSpeech_of_speech trimmed unbroken dash speech capital
  refine ⟨agrees, fun plain => ?_, fun d line body active opened => ?_⟩
  · have clause := Clause.ofLine?_speech speech unbroken capital plain
    refine ⟨clause, fun d line body => ?_⟩
    have straight : d.errors line = [] := by
      rw [Draft.errors, SourceLine.strays, body, clause, Option.any_none, Bool.and_false,
        Bool.and_false]
      rfl
    rw [Draft.diagnostics_step, List.filter_append, Draft.filter_isError, straight,
      List.append_nil]
  · obtain ⟨rest, rfl, -⟩ := Line.exists_afterDash dash
    have statement := Line.isStatement_dash rest
    rw [← body] at speech unbroken statement
    have kind := SourceLine.kind_of_speech speech unbroken statement
    have beat := Draft.beat?_speech active opened speech unbroken statement
    rw [body, Line.label?_dash, Option.isSome_none, if_neg Bool.false_ne_true] at beat
    refine ⟨(d.turned line).pending, by rw [Draft.beats_step, beat]; rfl, fun balance => ?_⟩
    have turns : line.turn? = none ∨ line.turn? = some .speech := by
      rw [SourceLine.turn?, kind, body]
      exact (Turn.ofLine?_leaves _).mpr (by rw [balance, agrees]; simp)
    rw [Draft.pending_turned, if_pos]
    exact turns.imp_right fun speech => ⟨speech, active⟩

/-- Blanks around the qualifier, and further colons behind that of the speaker. -/
theorem step_dashSpeech_of_colons :
    let text := "- BERT ( low ) : (to: all) Wait: here. #id:a".toList
    let s : Speech :=
      ⟨"BERT".toList, some "low".toList, some "to: all".toList, "Wait: here.".toList, "a".toList,
        []⟩
    let d := Draft.upTo (SourceLine.ofSource "a.ink".toList "== K\n#dink\n// why".toList)
    let line : SourceLine := ⟨text ++ " // too".toList, ⟨"a.ink".toList, 4⟩⟩
    Text.trim text = text ∧ text.any isBreak = false ∧ text.head? = some '-' ∧
      Speech.ofLine? text = some s ∧ s.speaker.head?.any Char.isUpper = true ∧
      (∀ q, s.qualifier = some q → ':' ∉ q ∧ ')' ∉ q) ∧ Line.isDashSpeech text = true ∧
      Clause.ofLine? text = none ∧
      (d.step line).diagnostics.filter Diagnostic.isError =
        d.diagnostics.filter Diagnostic.isError ∧
      (d.step line).beats = d.beats ++
        [{ id := "a".toList, comments := ["why".toList, "too".toList], tags := [],
           origin := line.origin, text := "Wait: here.".toList,
           part := .line "BERT".toList (some "low".toList) (some "to: all".toList) }] := by
  intro text s d line
  have trimmed : Text.trim text = text := by decide +kernel
  have whole : text.any isBreak = false := by decide +kernel
  have dash : text.head? = some '-' := by decide +kernel
  have speech : Speech.ofLine? text = some s := by decide +kernel
  have capital : s.speaker.head?.any Char.isUpper = true := by decide +kernel
  have plain : ∀ q, s.qualifier = some q → ':' ∉ q ∧ ')' ∉ q := by
    intro q qualifier
    obtain rfl : "low".toList = q := Option.some.inj qualifier
    decide
  have body : line.body = text := by decide +kernel
  have balance : Brace.ofLine? text = none := by decide +kernel
  have waits : d.pending ++ line.trailing = ["why".toList, "too".toList] := by decide +kernel
  obtain ⟨agrees, quiet, spoken⟩ := step_dashSpeech trimmed whole dash speech capital
  obtain ⟨clause, errors⟩ := quiet plain
  obtain ⟨comments, beats, taken⟩ := spoken d line body (by decide +kernel) (by decide +kernel)
  rw [taken balance, waits] at beats
  exact ⟨trimmed, whole, dash, speech, capital, plain, agrees, clause,
    errors d line body, beats⟩

/-- A digit may lead a speaker, but then the tests do not agree. Where a capital leads it, a colon or
a closing bracket in the qualifier may still make the line a clause; and a brace takes what waits
before the beat can. -/
theorem not_always_dashSpeech :
    (¬ ∀ (text : Text) (s : Speech), Text.trim text = text → text.any isBreak = false →
      text.head? = some '-' → Speech.ofLine? text = some s →
      Line.isDashSpeech text = true ∧ Clause.ofLine? text = none) ∧
    (¬ ∀ (text : Text) (s : Speech), Text.trim text = text → text.any isBreak = false →
      text.head? = some '-' → Speech.ofLine? text = some s →
      s.speaker.head?.any Char.isUpper = true → (∀ q, s.qualifier = some q → ')' ∉ q) →
      Clause.ofLine? text = none) ∧
    (¬ ∀ (text : Text) (s : Speech), Text.trim text = text → text.any isBreak = false →
      text.head? = some '-' → Speech.ofLine? text = some s →
      s.speaker.head?.any Char.isUpper = true → (∀ q, s.qualifier = some q → ':' ∉ q) →
      Clause.ofLine? text = none) ∧
    ¬ ∀ (d : Draft) (line : SourceLine) (s : Speech), Text.trim line.text = line.text →
      line.text.any isBreak = false → line.text.head? = some '-' →
      Speech.ofLine? line.text = some s → Line.isDashSpeech line.text = true →
      d.cascade.active = true → d.opened.isSome = true →
      (d.step line).beats = d.beats ++ [{ d.spoken line s with comments := d.pending }] := by
  refine ⟨?_, ?_, ?_, ?_⟩
  · intro always
    have same := always "- 2: Hi".toList ⟨"2".toList, none, none, "Hi".toList, [], []⟩
      (by decide +kernel) (by decide +kernel) (by decide +kernel) (by decide +kernel)
    revert same
    decide +kernel
  · intro always
    have unclosed : ∀ q, some "a: b".toList = some q → ')' ∉ q := by
      intro q qualifier
      obtain rfl : "a: b".toList = q := Option.some.inj qualifier
      decide
    have same := always "- FRED (a: b): Hi".toList
      ⟨"FRED".toList, some "a: b".toList, none, "Hi".toList, [], []⟩
      (by decide +kernel) (by decide +kernel) (by decide +kernel) (by decide +kernel)
      (by decide +kernel) unclosed
    revert same
    decide +kernel
  · intro always
    have uncut : ∀ q, some "a) b".toList = some q → ':' ∉ q := by
      intro q qualifier
      obtain rfl : "a) b".toList = q := Option.some.inj qualifier
      decide
    have same := always "- FRED (a) b): Hi".toList
      ⟨"FRED".toList, some "a) b".toList, none, "Hi".toList, [], []⟩
      (by decide +kernel) (by decide +kernel) (by decide +kernel) (by decide +kernel)
      (by decide +kernel) uncut
    revert same
    decide +kernel
  · intro always
    have kept := always
      (Draft.upTo (SourceLine.ofSource "a.ink".toList "== K\n#dink\n// why".toList))
      ⟨"- FRED: Hi \x7b x".toList, ⟨"a.ink".toList, 4⟩⟩
      ⟨"FRED".toList, none, none, "Hi \x7b x".toList, [], []⟩
      (by decide +kernel) (by decide +kernel) (by decide +kernel) (by decide +kernel)
      (by decide +kernel) (by decide +kernel) (by decide +kernel)
    revert kept
    decide +kernel

end Beatsheet

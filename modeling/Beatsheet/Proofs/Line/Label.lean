/-
# Beatsheet.Proofs.Line.Label — speech that is a label

A label ends at a colon with nothing behind it; but outside of brackets only blanks, `#` and an
opening bracket may not stand in it, so colons may. Speech such as `FRED:Wait:` has the form of a
label therefore (`Line.Labelled`), and just speech of this form is read as one
(`Line.isSome_label?_iff`): what looks like a speaker is excepted from the labels, but that is never
so where something is said.
-/
import Beatsheet.Proofs.Line.Speech

set_option autoImplicit false

namespace Beatsheet

open Text

namespace Line

/-! ## The form of a label -/

/-- A text that has neither blanks nor `#` but in its brackets, each of which ends with its first
closing one. -/
inductive Unspaced : Text → Prop
  | nil : Unspaced []
  | letter {c : Char} {rest : Text} (letter : isBlank c = false) (mark : c ≠ '#')
      (bracket : c ≠ '(') (behind : Unspaced rest) : Unspaced (c :: rest)
  | bracket {inside rest : Text} (closing : ')' ∉ inside) (behind : Unspaced rest) :
      Unspaced ('(' :: inside ++ ')' :: rest)

/-- Whether a line of speech has the form of a label. -/
def Labelled (line : Text) : Prop :=
  line.head? ≠ some '-' ∧ ∃ clause blanks, Unspaced clause ∧ (∀ c ∈ blanks, isBlank c = true) ∧
    line = clause ++ blanks ++ [':']

theorem endsLabel_iff (t : Text) :
    endsLabel t = true ↔ ∃ lead trail, (∀ c ∈ lead, isBlank c = true) ∧
      (∀ c ∈ trail, isBlank c = true) ∧ t = lead ++ ':' :: trail := by
  constructor
  · intro ends
    unfold endsLabel at ends
    split at ends
    · rename_i rest colon
      obtain ⟨lead, leads, split⟩ := exists_blanks t
      exact ⟨lead, rest, leads, by simpa using ends, by rw [colon] at split; exact split⟩
    · cases ends
  · rintro ⟨lead, trail, leads, trails, rfl⟩
    have colon : trimStart (lead ++ ':' :: trail) = ':' :: trail := trimStart_blanks leads _
    simpa [endsLabel, colon] using trails

/-- The rest of a label is followed by a colon; if it begins in a bracket, it has the form of a
label together with that. -/
theorem unspaced_labelRest? {inside : Bool} {t label : Text}
    (found : labelRest? inside t = some label) :
    Unspaced (if inside then '(' :: label else label) ∧
      ∃ lead trail, (∀ c ∈ lead, isBlank c = true) ∧ (∀ c ∈ trail, isBlank c = true) ∧
        t = label ++ lead ++ ':' :: trail := by
  induction t generalizing inside label with
  | nil => cases inside <;> simp [labelRest?] at found
  | cons c rest ih =>
      cases inside with
      | true =>
          simp only [labelRest?, Option.map_eq_some_iff] at found
          obtain ⟨label, found, rfl⟩ := found
          obtain ⟨form, lead, trail, leads, trails, rfl⟩ := ih found
          refine ⟨?_, lead, trail, leads, trails, rfl⟩
          rw [if_pos rfl]
          by_cases closing : c = ')'
          · subst closing
            exact @Unspaced.bracket [] label nofun form
          · rw [if_pos (by simpa using closing)] at form
            generalize opened : '(' :: label = held at form
            cases form with
            | nil => cases opened
            | letter letter mark bracket behind =>
                exact absurd (List.cons.inj opened).1.symm bracket
            | @bracket inside rest open_ behind =>
                obtain rfl := (List.cons.inj opened).2
                refine @Unspaced.bracket (c :: inside) rest ?_ behind
                rintro (_ | ⟨_, member⟩)
                · exact closing rfl
                · exact open_ member
      | false =>
          rw [labelRest?] at found
          split at found
          · rename_i ends
            obtain rfl := Option.some.inj found
            obtain ⟨lead, trail, leads, trails, split⟩ := (endsLabel_iff _).mp ends
            exact ⟨.nil, lead, trail, leads, trails, split⟩
          · split at found
            · cases found
            · rename_i other
              obtain ⟨label, more, rfl⟩ := Option.map_eq_some_iff.mp found
              obtain ⟨form, lead, trail, leads, trails, rfl⟩ := ih more
              refine ⟨?_, lead, trail, leads, trails, rfl⟩
              by_cases bracket : c = '('
              · subst bracket
                exact form
              · rw [if_neg (by simpa using bracket)] at form
                simp only [Bool.or_eq_true, beq_iff_eq, not_or, Bool.not_eq_true] at other
                exact .letter other.2 other.1 bracket form

theorem labelRest?_bracket {inside : Text} (closing : ')' ∉ inside) (t : Text) :
    labelRest? true (inside ++ ')' :: t) =
      (labelRest? false t).map fun label => inside ++ ')' :: label := by
  induction inside with
  | nil => rfl
  | cons c inside ih =>
      have other : (c != ')') = true := all_ne closing c List.mem_cons_self
      rw [List.cons_append, labelRest?, other,
        ih fun member => closing (List.mem_cons_of_mem c member), Option.map_map]
      rfl

/-- What has the form of a label, with a colon and nothing else behind it, is read as one; the label
ends there, or before. -/
theorem isSome_labelRest? {clause lead trail : Text} (form : Unspaced clause)
    (leads : ∀ c ∈ lead, isBlank c = true) (trails : ∀ c ∈ trail, isBlank c = true) :
    (labelRest? false (clause ++ lead ++ ':' :: trail)).isSome = true := by
  induction form with
  | nil =>
      have ends : endsLabel (lead ++ ':' :: trail) = true :=
        (endsLabel_iff _).mpr ⟨lead, trail, leads, trails, rfl⟩
      rw [List.nil_append]
      cases whole : lead ++ ':' :: trail with
      | nil => simp at whole
      | cons c rest =>
          rw [whole] at ends
          rw [labelRest?, if_pos ends]
          rfl
  | @letter c rest letter mark bracket behind ih =>
      have other : (c == '(') = false := by simpa using bracket
      rw [List.cons_append, List.cons_append, labelRest?, other]
      split
      · rfl
      · rw [if_neg (by simp [letter, mark]), Option.isSome_map]
        exact ih
  | @bracket inside rest closing behind ih =>
      have split : '(' :: inside ++ ')' :: rest ++ lead ++ ':' :: trail =
          '(' :: (inside ++ ')' :: (rest ++ lead ++ ':' :: trail)) := by simp
      rw [split, labelRest?]
      split
      · rfl
      · rw [if_neg (by decide), Option.isSome_map, beq_self_eq_true, labelRest?_bracket closing,
          Option.isSome_map]
        exact ih

/-! ## Labels and speech -/

theorem Between.start {between : Text} {qualifier : Option Text} (shape : Between between qualifier)
    (t : Text) : ∃ c rest, trimStart (between ++ ':' :: t) = c :: rest ∧
      isSpeakerChar c = false := by
  cases shape with
  | blanks blank => exact ⟨':', t, trimStart_blanks blank _, by decide⟩
  | @bracket lead trail inside leads trails =>
      have bracket := trimStart_blanks leads ('(' :: inside ++ ')' :: (trail ++ ':' :: t))
      refine ⟨'(', inside ++ ')' :: (trail ++ ':' :: t), ?_, by decide⟩
      rw [List.append_assoc, List.append_assoc, List.cons_append] at *
      exact bracket

/-- The colon of a line is told by what stands before it, if no closing bracket stands behind. -/
theorem Between.rest_eq {between between' rest rest' : Text} {qualifier qualifier' : Option Text}
    (shape : Between between qualifier) (shape' : Between between' qualifier')
    (single : (between' ++ ':' :: rest').count ')' ≤ 1)
    (same : between ++ ':' :: rest = between' ++ ':' :: rest') : rest = rest' := by
  -- What follows blanks is the same on both sides.
  have behind := congrArg trimStart same
  have colon : ∀ {blanks : Text}, (∀ c ∈ blanks, isBlank c = true) → ∀ t : Text,
      trimStart (blanks ++ ':' :: t) = ':' :: t := fun blank t => trimStart_blanks blank _
  have bracket : ∀ {blanks : Text}, (∀ c ∈ blanks, isBlank c = true) → ∀ inside more t : Text,
      trimStart (blanks ++ '(' :: inside ++ ')' :: more ++ ':' :: t) =
        '(' :: (inside ++ ')' :: (more ++ ':' :: t)) := by
    intro blanks blank inside more t
    rw [List.append_assoc, List.append_assoc, trimStart_blanks blank, List.cons_append,
      List.cons_append]
    rfl
  cases shape with
  | blanks blank =>
      rw [colon blank] at behind
      cases shape' with
      | blanks blank' =>
          rw [colon blank'] at behind
          exact (List.cons.inj behind).2
      | bracket inside leads trails =>
          rw [bracket leads] at behind
          cases behind
  | @bracket lead trail inside leads trails =>
      rw [bracket leads] at behind
      cases shape' with
      | blanks blank' =>
          rw [colon blank'] at behind
          cases behind
      | @bracket lead' trail' inside' leads' trails' =>
          rw [bracket leads', List.cons.injEq] at behind
          -- The bracket on the right ends with the only closing one that there is.
          have split : lead' ++ '(' :: inside' ++ ')' :: trail' ++ ':' :: rest' =
              (lead' ++ '(' :: inside') ++ ')' :: (trail' ++ ':' :: rest') := by simp
          rw [split, List.count_append, List.count_cons_self] at single
          have first : ')' ∉ inside' := by
            have none_ : ')' ∉ lead' ++ '(' :: inside' := List.count_eq_zero.mp (by omega)
            exact fun member => none_ (by simp [member])
          have last : ')' ∉ trail' ++ ':' :: rest' := List.count_eq_zero.mp (by omega)
          have parts := (List.append_cons_inj_of_notMem first last).mp behind.2.symm
          have ends := congrArg trimStart parts.2.2
          rw [colon trails, colon trails'] at ends
          exact (List.cons.inj ends).2.symm

/-- What looks like a speaker is the label of no line on which something is said. -/
theorem not_isSpeaker_of_speech {line label lead trail : Text} {s : Speech}
    (speech : Speech.ofLine? line = some s) (bare : afterDash line = line)
    (leads : ∀ c ∈ lead, isBlank c = true) (trails : ∀ c ∈ trail, isBlank c = true)
    (split : line = label ++ lead ++ ':' :: trail) : isSpeaker label = false := by
  by_contra speaker
  obtain ⟨name, behind, rfl, -, letters, shape⟩ := exists_of_isSpeaker (eq_true_of_ne_false speaker)
  obtain ⟨-, letters', between, rest, shape', spoken, parts⟩ := Speech.parts speech
  have bracketless : ∀ {blanks : Text}, (∀ c ∈ blanks, isBlank c = true) →
      blanks.count ')' = 0 := by
    intro blanks blank
    rw [List.count_eq_zero]
    intro member
    cases blank ')' member
  obtain ⟨qualifier, between_, single⟩ : ∃ qualifier, Between (behind ++ lead) qualifier ∧
      (behind ++ lead ++ ':' :: trail).count ')' ≤ 1 := by
    rcases shape with rfl | ⟨front, inside, fronts, closing, rfl⟩
    · refine ⟨none, .blanks leads, ?_⟩
      simp [bracketless leads, bracketless trails]
    · have bracket := Between.bracket inside fronts leads
      rw [List.append_cons] at bracket
      refine ⟨_, bracket, ?_⟩
      simp [bracketless fronts, bracketless leads, bracketless trails,
        List.count_eq_zero.mpr closing]
  have same : between ++ ':' :: rest = behind ++ lead ++ ':' :: trail := by
    obtain ⟨c, more, start, other⟩ := shape'.start rest
    obtain ⟨d, more', start', other'⟩ := between_.start trail
    rw [bare, split, List.append_assoc name, List.append_assoc name, List.append_assoc s.speaker]
      at parts
    have ends := congrArg (List.dropWhile isSpeakerChar) parts
    rw [dropWhile_isSpeakerChar letters' start other,
      dropWhile_isSpeakerChar letters start' other'] at ends
    exact ends.symm
  rw [shape'.rest_eq between_ single same] at spoken
  exact spoken ((trimStart_eq_nil_iff trail).mpr trails)

theorem isLabelStart_of_isSpeakerChar {c : Char} (speaker : isSpeakerChar c = true) :
    isLabelStart c = true := by
  simp only [isLabelStart, isBlank_of_isSpeakerChar speaker, Bool.or_false, Bool.not_eq_true',
    List.contains_eq_mem, decide_eq_false_iff_not]
  intro member
  have none_ : ("#-*+=/\x7b\x7d(".toList.all fun d => !isSpeakerChar d) = true := by decide
  have other := List.all_eq_true.mp none_ c member
  rw [speaker] at other
  cases other

section Speaker

variable {c : Char} {rest : Text}

/-- Where a name starts, a label does, unless it looks like a speaker. -/
theorem label?_cons (speaker : isSpeakerChar c = true) (bracket : c ≠ '(') :
    label? (c :: rest) = (labelRest? false rest).bind fun label =>
      if isSpeaker (c :: label) then none else some (c :: label) := by
  have other : (c == '(') = false := by simpa using bracket
  simp only [label?, other, isLabelStart_of_isSpeakerChar speaker, Bool.false_or, if_true]
  cases labelRest? false rest <;> rfl

/-- A label that starts with a name, in a trimmed line, has nothing behind its colon. -/
theorem labelled_of_labelRest? {label : Text} (speaker : isSpeakerChar c = true)
    (trimmed : trim (c :: rest) = c :: rest) (found : labelRest? false rest = some label) :
    Labelled (c :: rest) := by
  obtain ⟨form, lead, trail, leads, trails, rfl⟩ := unspaced_labelRest? found
  have whole : trimEnd (c :: label ++ lead ++ [':'] ++ trail) = c :: label ++ lead ++ [':'] := by
    have colon := trimEnd_append_cons (c := ':') (by decide) (c :: label ++ lead) []
    rw [trimEnd_blanks trails]
    simpa [trimEnd] using colon
  have ends := trimEnd_of_trim trimmed
  rw [← List.cons_append, ← List.cons_append, List.append_cons, whole,
    List.self_eq_append_right] at ends
  subst ends
  have apart : c ≠ '-' ∧ c ≠ '#' ∧ c ≠ '(' := by
    refine ⟨?_, ?_, ?_⟩
    all_goals
      rintro rfl
      cases speaker
  obtain ⟨dash, mark, bracket⟩ := apart
  refine ⟨by simpa using dash, c :: label, lead, ?_, leads, rfl⟩
  exact .letter (isBlank_of_isSpeakerChar speaker) mark bracket form

/-- What has the form of a label and starts with a name has that form behind its first character. -/
theorem Labelled.exists_tail (form : Labelled (c :: rest)) (speaker : isSpeakerChar c = true)
    (bracket : c ≠ '(') : ∃ clause lead, Unspaced clause ∧ (∀ d ∈ lead, isBlank d = true) ∧
      rest = clause ++ lead ++ [':'] := by
  obtain ⟨-, clause, lead, form, leads, split⟩ := form
  cases form with
  | nil =>
      cases lead with
      | nil =>
          rw [(List.cons.inj split).1] at speaker
          cases speaker
      | cons d lead =>
          have blank := isSpeakerChar_eq_false (leads d List.mem_cons_self)
          rw [← (List.cons.inj split).1, speaker] at blank
          cases blank
  | @letter d clause letter mark open_ behind =>
      exact ⟨clause, lead, behind, leads, (List.cons.inj split).2⟩
  | bracket closing behind => exact absurd (List.cons.inj split).1 bracket

end Speaker

/-- **A line of speech is read as a label just if it has the form of one.** -/
theorem isSome_label?_iff {line : Text} {s : Speech} (speech : Speech.ofLine? line = some s)
    (trimmed : trim line = line) : (label? line).isSome = true ↔ Labelled line := by
  obtain ⟨c, rest, start, shape⟩ := Speech.start speech
  rw [trimStart_of_trim trimmed] at start shape
  subst start
  rcases shape with rfl | ⟨speaker, bare⟩
  · -- No label starts with a dash.
    have none_ : label? ('-' :: rest) = none := by simp [label?, isLabelStart]
    simp [none_, Labelled]
  have bracket : c ≠ '(' := by
    rintro rfl
    cases speaker
  rw [label?_cons speaker bracket]
  constructor
  · intro some_
    cases found : labelRest? false rest with
    | none => simp [found] at some_
    | some label => exact labelled_of_labelRest? speaker trimmed found
  · intro form
    obtain ⟨clause, lead, unspaced, leads, rfl⟩ := form.exists_tail speaker bracket
    have nothing : ∀ d ∈ ([] : Text), isBlank d = true := List.forall_mem_nil _
    obtain ⟨label, found⟩ :=
      Option.isSome_iff_exists.mp (isSome_labelRest? unspaced leads nothing)
    obtain ⟨-, lead', trail', leads', trails', split'⟩ := unspaced_labelRest? found
    have whole : c :: (clause ++ lead ++ [':']) = (c :: label) ++ lead' ++ ':' :: trail' := by
      rw [split', List.cons_append, List.cons_append]
    have spoken := not_isSpeaker_of_speech speech bare leads' trails' whole
    rw [found]
    simp [spoken]

end Line

end Beatsheet

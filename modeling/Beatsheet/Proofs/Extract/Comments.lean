/-
# Beatsheet.Proofs.Extract.Comments — the comments of a beat

A beat takes the comments that wait for it: those of the lines behind the last one that takes or
loses what waits, and the one at the end of its own line (`extractLines_comments`). A line that
turns the flow takes them first, so its beat has none, but for speech behind a dash.
-/
import Beatsheet.Proofs.Draft.Beat
import Beatsheet.Proofs.Draft.Pending
import Beatsheet.Proofs.Extract.Placement

set_option autoImplicit false

namespace Beatsheet

/-- Only speech behind a dash turns the flow without taking what waits. -/
theorem Turn.ofLine?_leaves (line : Text) :
    (Turn.ofLine? line = none ∨ Turn.ofLine? line = some .speech) ↔
      ((Brace.ofLine? line).isNone &&
        (!Line.breaksFlow line || Line.isDashSpeech line)) = true := by
  unfold Turn.ofLine?
  cases Brace.ofLine? line with
  | some brace => cases brace <;> simp
  | none =>
      cases Line.breaksFlow line with
      | false => simp
      | true =>
          cases Line.isDashSpeech line with
          | true => simp
          | false =>
              simp only [Bool.not_true, Bool.false_eq_true, if_false]
              cases Line.choice? line with
              | some text => simp
              | none => cases Line.isGather line <;> simp

namespace Site

/-- The comments that a beat on this line gets: what waits before the line and the comment at its
end, unless the line turns the flow and is not speech behind a dash. -/
def comments (s : Site) : List Text :=
  if (Brace.ofLine? s.line.body).isNone &&
      (!Line.breaksFlow s.line.body || Line.isDashSpeech s.line.body) then
    waiting s.before ++ s.line.trailing
  else []

/-- A beat is at the origin of its line and has the comments that are told from there. -/
theorem beat?_eq {s : Site} {beat : Beat} (found : s.beat? = some beat) :
    beat.origin = s.line.origin ∧ beat.comments = s.comments := by
  rw [beat?, Draft.beat?, Option.bind_eq_some_iff] at found
  obtain ⟨ways, prose, read⟩ := found
  rw [Draft.proseBeat?] at read
  split at read
  · rename_i reads
    obtain ⟨shape, -, rfl⟩ := Option.map_eq_some_iff.mp read
    refine ⟨Draft.origin_beatOf s.line.origin shape, ?_⟩
    have active : s.draft.cascade.active = true := by
      have beat : s.draft.readsBeat s.line = true := by
        rw [← Draft.readsBeat_turned, Draft.readsBeat, prose]
        exact reads
      exact (Draft.active_of_readsBeat beat).1
    have turns : s.line.turn? = Turn.ofLine? s.line.body := by
      unfold SourceLine.prose? at prose
      split at prose
      · rename_i turn _ kind
        rw [SourceLine.turn?, kind]
        exact (SourceLine.content_eq kind).1
      · cases prose
    calc _ = (s.draft.turned s.line).pending := rfl
      _ = s.comments := by
        rw [Draft.pending_turned, draft, Draft.pending_upTo, ← draft, active, turns, comments]
        simp only [and_true, Turn.ofLine?_leaves]
  · cases read

end Site

/-- **The comments of a beat.** -/
theorem extractLines_comments {σ : Type} (source : IdSource σ) (state : σ) (options : Options)
    (previous : Option (List (Scene Text))) (lines : List SourceLine) :
    (extractLines source state options previous lines).extraction.beats.map
        (fun beat => (beat.origin, beat.comments)) =
      ((sites lines).filter Site.isBeat).map fun s => (s.line.origin, s.comments) := by
  have told : ∀ s : Site, (s.beat?.map fun beat => (beat.origin, beat.comments)) =
      if s.isBeat then some (s.line.origin, s.comments) else none := by
    intro s
    have isBeat : s.beat?.isSome = s.isBeat := Draft.isSome_beat? s.draft s.line
    rw [← isBeat]
    cases found : s.beat? with
    | none => rfl
    | some beat =>
        obtain ⟨origin, comments⟩ := Site.beat?_eq found
        simp [origin, comments]
  rw [beats_extractLines, List.map_filterMap]
  simp only [told]
  induction sites lines with
  | nil => rfl
  | cons s rest ih =>
    cases beat : s.isBeat <;> simp [beat, ih]

/-- Comments wait over blank lines, a label and the dash of speech; a comment with an arrow in it
makes those before it go, and a choice takes all for itself. -/
example :
    (extractLines IdSource.numbered 0 {} none
      (SourceLine.ofSource "a.ink".toList
        ("== K\n#dink\n// one\n\n(again):\n- ANNA: Hi. #id:a // two\n// three\n// to -> L\n" ++
          "BERT: So. #id:b\n// four\n* Go on. #id:c").toList)).extraction.beats.map (·.comments) =
      [["one".toList, "(again)".toList, "two".toList], ["to -> L".toList]] := by
  decide +kernel

end Beatsheet

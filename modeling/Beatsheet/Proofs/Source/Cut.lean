/-
# Beatsheet.Proofs.Source.Cut — the comments of a text

A text is cut at its comments: the first `/*` that is closed, up to the first `*/` wholly behind it,
and so on behind that (`Cut`). There is such a cut of every text (`exists_cut`), and only one
(`Cut.unique`), since a mark has one first place (`Text.First.unique`). Two marks may share a
character; what tells them apart is where the search goes on.

The one pass over a text (`scan`) and the search for the pattern of a comment (`comment`) do the
same to a stretch with its comment and to a text without any, so they leave the same of every text
(`strip_cut`).
-/
import Beatsheet.Proofs.Source.BlockComment
import Beatsheet.Proofs.Text.Language
import Beatsheet.Proofs.Text.Replace

set_option autoImplicit false

namespace Beatsheet.BlockComment

open Text

def opening : Text := ['/', '*']

def closing : Text := ['*', '/']

/-- What ends a stretch outside comments, or a comment. -/
def turn : (inside : Bool) → Text
  | false => opening
  | true => closing

/-- Whether nothing closes an opening of the text. -/
def Unclosed (t : Text) : Prop :=
  ∀ front back, t = front ++ opening ++ back → ¬ closing <:+: back

/-- What stands in front of a comment, and the comment. -/
structure Span where
  before : Text
  comment : Text

def Span.text (s : Span) : Text :=
  s.before ++ s.comment

/-- What stays of it: of the comment no more than the line breaks. -/
def Span.rest (s : Span) : Text :=
  s.before ++ s.comment.filter isBreak

def Span.marks (s : Span) : List (Char × Bool) :=
  s.before.map (·, false) ++ s.comment.map (·, true)

/-- The comment begins with the first `/*`, and ends with the first `*/` wholly behind that. -/
structure Span.Leftmost (s : Span) : Prop where
  opens : First opening s.before s.text
  ends : ∃ body, s.comment = opening ++ body ++ closing ∧ First closing body (body ++ closing)

/-- The text is these stretches, each with its comment, and a last one without a comment. -/
structure Cut (t : Text) (spans : List Span) (last : Text) : Prop where
  whole : t = spans.flatMap Span.text ++ last
  leftmost : ∀ s ∈ spans, s.Leftmost
  unclosed : Unclosed last

variable {t last : Text} {s : Span} {spans : List Span} {c : Char}

theorem closes_iff (t : Text) : closes t = true ↔ closing <:+: t := by
  fun_induction closes t with
  | case1 rest => simp [closing, List.infix_cons_iff]
  | case2 c rest other ih =>
      have plain : ¬ closing <+: c :: rest := by
        rintro ⟨back, eq⟩
        obtain ⟨rfl, rfl⟩ := List.cons.inj eq
        exact other back rfl rfl
      rw [ih, List.infix_cons_iff, or_iff_right plain]
  | case3 => simp [closing]

/-! ## There is one cut -/

theorem Unclosed.tail (unclosed : Unclosed (c :: t)) : Unclosed t :=
  fun front back eq => unclosed (c :: front) back (congrArg (c :: ·) eq)

theorem cut_cons_iff :
    Cut t (s :: spans) last ↔
      ∃ behind, t = s.text ++ behind ∧ s.Leftmost ∧ Cut behind spans last := by
  constructor
  · rintro ⟨whole, leftmost, unclosed⟩
    obtain ⟨here, others⟩ := List.forall_mem_cons.mp leftmost
    refine ⟨_, ?_, here, rfl, others, unclosed⟩
    rw [whole, List.flatMap_cons, List.append_assoc]
  · rintro ⟨behind, rfl, here, whole, leftmost, unclosed⟩
    refine ⟨?_, List.forall_mem_cons.mpr ⟨here, leftmost⟩, unclosed⟩
    rw [whole, List.flatMap_cons, List.append_assoc]

/-- If some opening of a text is closed, the first one is. -/
theorem exists_leftmost (closed : ¬ Unclosed t) :
    ∃ (s : Span) (behind : Text), s.Leftmost ∧ t = s.text ++ behind := by
  unfold Unclosed at closed
  push Not at closed
  obtain ⟨front, back, eq, later⟩ := closed
  have occurs : opening <:+: t := ⟨front, back, eq.symm⟩
  obtain ⟨before, opens⟩ := exists_first occurs
  obtain ⟨rest, split⟩ := opens.1
  have behind : back <:+ rest := by
    have length := congrArg List.length (split.trans eq)
    simp only [List.length_append] at length
    have shorter : back.length ≤ rest.length := by
      have least := opens.2 front ⟨back, eq.symm⟩
      omega
    exact List.suffix_of_suffix_length_le ⟨_, eq.symm⟩ ⟨_, split⟩ shorter
  obtain ⟨body, ends⟩ := exists_first (later.trans behind.isInfix)
  obtain ⟨more, rfl⟩ := ends.1
  refine ⟨⟨before, opening ++ body ++ closing⟩, more, ⟨?_, body, rfl, ?_⟩, ?_⟩
  · refine opens.of_prefix ?_ ?_
    · simp [Span.text]
    · rw [← split]
      simp [Span.text]
  · exact ends.of_prefix (List.prefix_refl _) (List.prefix_append _ _)
  · rw [← split]
    simp [Span.text]

theorem exists_cut (t : Text) : ∃ spans last, Cut t spans last := by
  -- Behind a comment less is left of the text.
  induction size : t.length using Nat.strong_induction_on generalizing t with
  | _ n ih =>
      by_cases unclosed : Unclosed t
      · exact ⟨[], t, rfl, List.forall_mem_nil _, unclosed⟩
      · obtain ⟨s, behind, leftmost, rfl⟩ := exists_leftmost unclosed
        have shorter : behind.length < n := by
          obtain ⟨body, comment, -⟩ := leftmost.ends
          rw [← size, Span.text, comment]
          simp [opening]
          omega
        obtain ⟨spans, last, cut⟩ := ih behind.length shorter behind rfl
        exact ⟨s :: spans, last, cut_cons_iff.mpr ⟨behind, rfl, leftmost, cut⟩⟩

theorem Span.Leftmost.not_unclosed (leftmost : s.Leftmost) (behind : Text) :
    ¬ Unclosed (s.text ++ behind) := by
  obtain ⟨body, comment, -⟩ := leftmost.ends
  intro unclosed
  refine unclosed s.before (body ++ closing ++ behind) ?_ ⟨body, behind, rfl⟩
  simp [Span.text, comment]

theorem Span.Leftmost.unique {s' : Span} {behind behind' : Text} (leftmost : s.Leftmost)
    (again : s'.Leftmost) (same : s.text ++ behind = s'.text ++ behind') :
    s = s' ∧ behind = behind' := by
  obtain ⟨before, comment⟩ := s
  obtain ⟨before', comment'⟩ := s'
  obtain ⟨body, rfl, ends⟩ := leftmost.ends
  obtain ⟨body', rfl, ends'⟩ := again.ends
  obtain rfl : before = before' :=
    (leftmost.opens.append behind).unique (same ▸ again.opens.append behind')
  have rest : body ++ closing ++ behind = body' ++ closing ++ behind' := by
    simpa [Span.text] using same
  obtain rfl : body = body' := (ends.append behind).unique (rest ▸ ends'.append behind')
  exact ⟨rfl, List.append_cancel_left rest⟩

theorem Cut.unique {spans' : List Span} {last' : Text} (cut : Cut t spans last)
    (again : Cut t spans' last') : spans' = spans ∧ last' = last := by
  induction spans generalizing t spans' with
  | nil =>
      obtain rfl : t = last := cut.whole
      cases spans' with
      | nil => exact ⟨rfl, again.whole.symm⟩
      | cons s' rest =>
          obtain ⟨behind, rfl, leftmost, -⟩ := cut_cons_iff.mp again
          exact absurd cut.unclosed (leftmost.not_unclosed behind)
  | cons s rest ih =>
      obtain ⟨behind, rfl, leftmost, cutBehind⟩ := cut_cons_iff.mp cut
      cases spans' with
      | nil =>
          obtain rfl := again.whole
          exact absurd again.unclosed (leftmost.not_unclosed behind)
      | cons s' rest' =>
          obtain ⟨behind', same, leftmost', cutBehind'⟩ := cut_cons_iff.mp again
          obtain ⟨rfl, rfl⟩ := leftmost.unique leftmost' same
          obtain ⟨rfl, rfl⟩ := ih cutBehind cutBehind'
          exact ⟨rfl, rfl⟩

/-- What is done to a text is known from what is done to a stretch with its comment in front of
more, and to a text in which nothing is closed. -/
theorem Cut.eq_flatMap {α : Type} {whole : Text → List α} {part : Span → List α}
    {rest : Text → List α} (cut : Cut t spans last)
    (span : ∀ {s : Span}, s.Leftmost → ∀ behind, whole (s.text ++ behind) = part s ++ whole behind)
    (unclosed : ∀ t, Unclosed t → whole t = rest t) :
    whole t = spans.flatMap part ++ rest last := by
  induction spans generalizing t with
  | nil =>
      obtain rfl : t = last := cut.whole
      exact unclosed t cut.unclosed
  | cons s others ih =>
      obtain ⟨behind, rfl, leftmost, cutBehind⟩ := cut_cons_iff.mp cut
      rw [span leftmost, ih cutBehind, List.flatMap_cons, List.append_assoc]

/-! ## What is in a comment -/

/-- Where a mark that would open or close a comment does not stand, the text goes on as it was. -/
theorem marked_plain {inside : Bool} (plain : ¬ turn inside <+: c :: t) :
    marked inside (c :: t) = (c, inside) :: marked inside t := by
  rw [marked]
  · rintro rest rfl rfl rfl
    exact plain (List.prefix_append opening rest)
  · rintro rest rfl rfl rfl
    exact plain (List.prefix_append closing rest)

theorem marked_front {inside : Bool} {front rest : Text}
    (first : First (turn inside) front (front ++ rest)) :
    marked inside (front ++ rest) = front.map (·, inside) ++ marked inside rest := by
  induction front with
  | nil => rfl
  | cons c front ih =>
      rw [List.cons_append] at first ⊢
      obtain ⟨plain, later⟩ := first_cons_iff.mp first
      rw [marked_plain plain, ih later]
      rfl

theorem marked_span (leftmost : s.Leftmost) (behind : Text) :
    marked false (s.text ++ behind) = s.marks ++ marked false behind := by
  obtain ⟨body, comment, ends⟩ := leftmost.ends
  have closed : closes (body ++ closing ++ behind) = true :=
    (closes_iff _).mpr ⟨body, behind, rfl⟩
  have outside : marked false (s.text ++ behind) =
      s.before.map (·, false) ++ marked false (s.comment ++ behind) := by
    have first := leftmost.opens.append behind
    rw [Span.text, List.append_assoc] at first ⊢
    exact marked_front first
  have enters : marked false (s.comment ++ behind) =
      opening.map (·, true) ++ marked true (body ++ closing ++ behind) := by
    have whole : s.comment ++ behind = '/' :: '*' :: (body ++ closing ++ behind) := by
      simp [comment, opening]
    rw [whole, marked, if_pos closed]
    rfl
  have inside : marked true (body ++ closing ++ behind) =
      body.map (·, true) ++ marked true (closing ++ behind) := by
    have first := ends.append behind
    rw [List.append_assoc] at first ⊢
    exact marked_front first
  have leaves : marked true (closing ++ behind) = closing.map (·, true) ++ marked false behind := by
    simp [closing, marked]
  rw [outside, enters, inside, leaves, Span.marks, comment]
  simp

theorem marked_unclosed (unclosed : Unclosed t) : marked false t = t.map (·, false) := by
  induction t with
  | nil => rfl
  | cons c rest ih =>
      by_cases start : opening <+: c :: rest
      · obtain ⟨back, eq⟩ := start
        have stays : closes back = false := by
          simpa [← closes_iff] using unclosed [] back eq.symm
        rw [← eq]
        simp [opening, marked, stays]
      · have plain : ¬ turn false <+: c :: rest := start
        rw [marked_plain plain, ih unclosed.tail]
        rfl

/-- The characters in comments are those of the comments of the cut. -/
theorem Cut.marked_eq (cut : Cut t spans last) :
    marked false t = spans.flatMap Span.marks ++ last.map (·, false) :=
  cut.eq_flatMap marked_span fun _ => marked_unclosed

/-! ## What stays -/

theorem kept_outside (t : Text) : kept (t.map (·, false)) = t := by
  simp [kept, stays, List.filter_map, Function.comp_def]

theorem kept_inside (t : Text) : kept (t.map (·, true)) = t.filter isBreak := by
  simp [kept, stays, List.filter_map, Function.comp_def]

theorem kept_marks (s : Span) : kept s.marks = s.rest := by
  rw [Span.marks, kept_append, kept_outside, kept_inside, Span.rest]

theorem strip_span (leftmost : s.Leftmost) (behind : Text) :
    strip (s.text ++ behind) = s.rest ++ strip behind := by
  rw [strip, ← kept_marked, marked_span leftmost, kept_append, kept_marks, kept_marked, strip]

theorem strip_unclosed (unclosed : Unclosed t) : strip t = t := by
  rw [strip, ← kept_marked, marked_unclosed unclosed, kept_outside]

theorem Cut.strip_eq (cut : Cut t spans last) : strip t = spans.flatMap Span.rest ++ last :=
  cut.eq_flatMap strip_span fun _ => strip_unclosed

/-! ## Openings that nothing closes -/

theorem Unclosed.of_append {front back : Text} (unclosed : Unclosed (front ++ back)) :
    Unclosed front := by
  rintro earlier later rfl closed
  refine unclosed earlier (later ++ back) (List.append_assoc _ later back) ?_
  exact closed.trans (List.prefix_append later back).isInfix

theorem length_marks (s : Span) : s.marks.length = s.text.length := by
  simp [Span.marks, Span.text]

theorem covers_behind (leftmost : s.Leftmost) (behind : Text) (n : Nat) :
    covers (s.text ++ behind) (s.text.length + n) = covers behind n := by
  rw [covers, marked_span leftmost, ← length_marks,
    List.getElem?_append_right (Nat.le_add_right _ _), Nat.add_sub_cancel_left, covers]

theorem covers_comment (leftmost : s.Leftmost) (behind : Text) {n : Nat}
    (after : s.before.length ≤ n) (within : n < s.text.length) :
    covers (s.text ++ behind) n = true := by
  have place : n - s.before.length < s.comment.length := by
    rw [Span.text, List.length_append] at within
    omega
  rw [covers, marked_span leftmost, List.getElem?_append_left (by rwa [length_marks]),
    Span.marks, List.getElem?_append_right (by rwa [List.length_map]), List.length_map,
    List.getElem?_map, List.getElem?_eq_getElem place]
  rfl

/-- An opening that stands in no comment is never closed, and parts the text: what is in front of it
is left as it would be alone, and all from there on stays. -/
theorem Cut.strip_append {front back : Text} (cut : Cut (front ++ opening ++ back) spans last)
    (outside : covers (front ++ opening ++ back) front.length = false) :
    ¬ closing <:+: back ∧
      strip (front ++ opening ++ back) = strip front ++ opening ++ back := by
  induction spans generalizing front with
  | nil =>
      have unclosed : Unclosed (front ++ opening ++ back) := cut.whole ▸ cut.unclosed
      have alone : Unclosed front := (List.append_assoc front _ _ ▸ unclosed).of_append
      refine ⟨unclosed front back rfl, ?_⟩
      rw [strip_unclosed unclosed, strip_unclosed alone]
  | cons s rest ih =>
      obtain ⟨behind, whole, leftmost, cutBehind⟩ := cut_cons_iff.mp cut
      -- No opening stands in front of the comment, and this one is not in it.
      have stands : front ++ opening <+: s.text ++ behind := whole ▸ List.prefix_append _ back
      have after : s.before.length ≤ front.length := (leftmost.opens.append behind).2 front stands
      have later : s.text.length ≤ front.length := by
        by_contra within
        rw [whole, covers_comment leftmost behind after (Nat.lt_of_not_le within)] at outside
        cases outside
      obtain ⟨front, rfl⟩ : s.text <+: front :=
        List.prefix_of_prefix_length_le (List.prefix_append _ behind)
          ((List.prefix_append front opening).trans stands) later
      have same : front ++ opening ++ back = behind := by
        simpa using whole
      rw [whole, List.length_append, covers_behind leftmost, ← same] at outside
      obtain ⟨open_, stays⟩ := ih (same ▸ cutBehind) outside
      refine ⟨open_, ?_⟩
      rw [whole, ← same, strip_span leftmost, strip_span leftmost, stays]
      simp

/-! ## The pattern of a comment -/

section Comment

open Pattern

/-- What ends a comment. -/
def ending : Pattern Empty :=
  seq (one (· == '*')) (one (· == '/'))

/-- An opening, as few characters as possible, line breaks among them, and what ends a comment. -/
def comment : Pattern Empty :=
  seq (one (· == '/')) (seq (one (· == '*')) (seq (few (one fun _ => true)) ending))

theorem eq_of_mem_ending {w : Text} (member : w ∈ ending.language) : w = closing := by
  obtain ⟨c, _, star, ⟨d, slash, rfl⟩, rfl⟩ := mem_language_seq_one.mp member
  rw [beq_iff_eq] at star slash
  rw [star, slash, closing]

theorem exists_of_mem_comment {w : Text} (member : w ∈ comment.language) :
    ∃ body, w = opening ++ body ++ closing := by
  obtain ⟨c, _, slash, inner, rfl⟩ := mem_language_seq_one.mp member
  obtain ⟨d, _, star, rest, rfl⟩ := mem_language_seq_one.mp inner
  obtain ⟨body, -, last, ends, rfl⟩ := Language.mem_mul.mp rest
  rw [beq_iff_eq] at slash star
  obtain rfl := eq_of_mem_ending ends
  exact ⟨body, by rw [slash, star]; rfl⟩

/-- The pattern is matched only where a comment stands. -/
theorem ways_comment_eq_nil (other : ∀ body, ¬ opening ++ body ++ closing <+: t) :
    comment.ways t = [] := by
  refine ways_eq_nil ⟨trivial, trivial, trivial, trivial, trivial⟩ fun w matched => ?_
  obtain ⟨body, rfl⟩ := exists_of_mem_comment matched
  exact other body

theorem ways_ending_eq_nil (other : ¬ closing <+: t) : ending.ways t = [] := by
  refine ways_eq_nil ⟨trivial, trivial⟩ fun w matched => ?_
  rwa [eq_of_mem_ending matched]

/-- Fewer characters come first, so that the first way ends with the first `*/`. -/
theorem head?_ways_comment {body : Text} (ends : First closing body (body ++ closing))
    (behind : Text) :
    (comment.ways (opening ++ (body ++ (closing ++ behind)))).head? = some ([], behind) := by
  have enters : comment.ways (opening ++ (body ++ (closing ++ behind))) =
      (seq (few (one fun _ => true)) ending).ways (body ++ (closing ++ behind)) := by
    rw [comment, opening, List.cons_append, ways_seq_one_cons, if_pos (beq_self_eq_true _),
      List.cons_append, ways_seq_one_cons, if_pos (beq_self_eq_true _), List.nil_append]
  rw [enters, ways, chain, ways_few_one, List.flatMap_map]
  refine head?_splits (fun _ _ => rfl) (by rfl) fun x y cut some_ => ?_
  have later : ¬ closing <+: y ++ (closing ++ behind) := by
    intro earlier
    have first := ends.append behind
    rw [List.append_assoc, cut, List.append_assoc] at first
    have least := first.2 x ((List.prefix_append_right_inj x).mpr earlier)
    rw [List.length_append] at least
    exact some_ (List.length_eq_zero_iff.mp (by omega))
  rw [ways_ending_eq_nil later, List.map_nil]

variable {f : Text → Text}

theorem replace_front {front rest : Text} (first : First opening front (front ++ rest)) :
    comment.replace f (front ++ rest) = front ++ comment.replace f rest := by
  induction front with
  | nil => rfl
  | cons c front ih =>
      rw [List.cons_append] at first ⊢
      obtain ⟨plain, later⟩ := first_cons_iff.mp first
      have none_ : comment.ways (c :: (front ++ rest)) = [] := by
        refine ways_comment_eq_nil fun body stands => plain ?_
        rw [List.append_assoc] at stands
        exact (List.prefix_append opening _).trans stands
      rw [replace_of_nil none_, ih later]
      rfl

theorem replace_span (leftmost : s.Leftmost) (behind : Text) :
    comment.replace f (s.text ++ behind) =
      s.before ++ f s.comment ++ comment.replace f behind := by
  obtain ⟨body, whole, ends⟩ := leftmost.ends
  have found : (comment.ways (s.comment ++ behind)).head? = some ([], behind) := by
    simpa [whole] using head?_ways_comment ends behind
  have first := leftmost.opens.append behind
  rw [Span.text, List.append_assoc] at first ⊢
  rw [replace_front first, replace_of_head? found (by simp [whole, opening]), List.append_assoc]

theorem replace_unclosed (unclosed : Unclosed t) : comment.replace f t = t := by
  induction t with
  | nil => rw [replace]
  | cons c rest ih =>
      have none_ : comment.ways (c :: rest) = [] := by
        refine ways_comment_eq_nil ?_
        rintro body ⟨behind, whole⟩
        refine unclosed [] (body ++ closing ++ behind) ?_ ⟨body, behind, rfl⟩
        simp [← whole]
      rw [replace_of_nil none_, ih unclosed.tail]

/-- Leaving out the comments is replacing the pattern by the line breaks of what it takes off. -/
theorem Cut.replace_eq (cut : Cut t spans last) :
    comment.replace (·.filter isBreak) t = spans.flatMap Span.rest ++ last :=
  cut.eq_flatMap replace_span fun _ => replace_unclosed

end Comment

/-- **Leaving out the comments leaves out exactly the leftmost closed ones.** There is one way to
cut a text into stretches and comments, each comment the first that opens behind the one before it
and ending as early as it can, with nothing closed in the last stretch. The characters in comments
are those of the comments of this cut, and what stays is the stretches, each with the line breaks of
its comment behind it. It is the text with the lazy pattern of a comment replaced by the line breaks
in it, so no line break is added, lost or moved past another. And an opening that stands in no
comment is one that nothing closes: it stays with all behind it, and what is in front of it is left
as it would be alone. -/
theorem strip_cut (t : Text) :
    (∃ spans last, Cut t spans last ∧
      (∀ spans' last', Cut t spans' last' → spans' = spans ∧ last' = last) ∧
      marked false t = spans.flatMap Span.marks ++ last.map (·, false) ∧
      strip t = spans.flatMap Span.rest ++ last) ∧
    strip t = comment.replace (·.filter isBreak) t ∧
    (strip t).filter isBreak = t.filter isBreak ∧
    ∀ front back, t = front ++ opening ++ back → covers t front.length = false →
      ¬ closing <:+: back ∧ strip t = strip front ++ opening ++ back := by
  obtain ⟨spans, last, cut⟩ := exists_cut t
  refine ⟨⟨spans, last, cut, fun _ _ => cut.unique, cut.marked_eq, cut.strip_eq⟩,
    cut.strip_eq.trans cut.replace_eq.symm, filter_isBreak_scan false t, ?_⟩
  rintro front back rfl outside
  exact cut.strip_append outside

/-- Marks that share a character: `/*/` ends no comment, `/**/` is a whole one, and the `/` that
ends one opens none. -/
theorem strip_cut_of_overlapping :
    strip "a/*/\r\n*/*b/**/c/*\nd".toList = "a\r\n*bc/*\nd".toList := by
  have outside := (strip_cut "a/*/\r\n*/*b/**/c/*\nd".toList).2.2.2
    "a/*/\r\n*/*b/**/c".toList "\nd".toList (by decide) (by decide)
  rw [outside.2]
  decide

end Beatsheet.BlockComment

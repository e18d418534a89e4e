/-
# Beatsheet.Proofs.Text.Pattern — patterns

A pattern is matched from the start of a text by going back to the last choice that is left whenever
nothing else goes on. `ways` lists all ways to match a beginning of a text, and what each leaves, in
the order in which they are come upon: of two alternatives those of the first one before those of
the second, and of a repetition those of more rounds before those of fewer, or the other way round.
What a pattern finds is its first way (`first?`).

Most of the work is to see that a choice cannot be wrong. What follows the first way of a step need
not be looked at again if something goes on from there (`head?_chain`), and where one character
after another is taken as late as possible, it is enough that nothing goes on from the places before
the one that is found (`head?_splits`).
-/
import Beatsheet.Proofs.Text.Words

set_option autoImplicit false

namespace Beatsheet

open Text

/-- Patterns whose groups are named by `κ`. -/
inductive Pattern (κ : Type) where
  /-- A character of a class. -/
  | one (p : Char → Bool)
  | seq (first next : Pattern κ)
  /-- One or the other; the first comes first. -/
  | alt (first second : Pattern κ)
  /-- There or not; there comes first. -/
  | opt (inside : Pattern κ)
  /-- Any number of rounds; more come first. -/
  | many (round : Pattern κ)
  /-- Any number of rounds; fewer come first. -/
  | few (round : Pattern κ)
  | group (name : κ) (inside : Pattern κ)
  /-- The end of the text. -/
  | stop

namespace Pattern

variable {κ : Type}

/-- The texts of the groups, and what is left of the text. -/
abbrev Way (κ : Type) := List (κ × Text) × Text

/-- One step and then another one, from each place where the first may end. -/
def chain (first next : Text → List (Way κ)) (t : Text) : List (Way κ) :=
  (first t).flatMap fun way => (next way.2).map fun later => (way.1 ++ later.1, later.2)

/-- Rounds that take something off the text, so that no text has room for more than `fuel`. -/
def rounds (round : Text → List (Way κ)) (fewer : Bool) : (fuel : Nat) → Text → List (Way κ)
  | 0, t => [([], t)]
  | fuel + 1, t =>
    let again :=
      chain (fun t => (round t).filter (·.2.length < t.length)) (rounds round fewer fuel) t
    if fewer then ([], t) :: again else again ++ [([], t)]

def ways : Pattern κ → Text → List (Way κ)
  | .one _, [] => []
  | .one p, c :: rest => if p c then [([], rest)] else []
  | .seq first next, t => chain first.ways next.ways t
  | .alt first second, t => first.ways t ++ second.ways t
  | .opt inside, t => inside.ways t ++ [([], t)]
  | .many round, t => rounds round.ways false t.length t
  | .few round, t => rounds round.ways true t.length t
  | .group name inside, t =>
    (inside.ways t).map fun way => (way.1 ++ [(name, t.take (t.length - way.2.length))], way.2)
  | .stop, t => if t.isEmpty then [([], t)] else []

/-- The texts of the groups when the pattern is matched. -/
def first? (a : Pattern κ) (t : Text) : Option (List (κ × Text)) :=
  (a.ways t).head?.map (·.1)

/-! ## Steps -/

section Chain

variable {first next : Text → List (Way κ)} {t rest rest' : Text} {groups more : List (κ × Text)}

/-- What goes on from the first way of a step comes first. -/
theorem head?_chain (found : (first t).head? = some (groups, rest))
    (goesOn : (next rest).head? = some (more, rest')) :
    (chain first next t).head? = some (groups ++ more, rest') := by
  obtain ⟨others, ways⟩ := List.head?_eq_some_iff.mp found
  rw [chain, ways, List.flatMap_cons, List.head?_append, List.head?_map, goesOn]
  rfl

/-- Nothing comes of a step from whose ways nothing goes on. -/
theorem chain_eq_nil (stuck : ∀ way ∈ first t, next way.2 = []) : chain first next t = [] := by
  rw [chain, List.flatMap_eq_nil_iff]
  intro way member
  rw [stuck way member, List.map_nil]

end Chain

theorem ways_seq_one_cons (p : Char → Bool) (next : Pattern κ) (c : Char) (rest : Text) :
    (seq (one p) next).ways (c :: rest) = if p c then next.ways rest else [] := by
  cases first : p c <;> simp [ways, chain, first]

theorem ways_seq_alt (a b next : Pattern κ) (t : Text) :
    (seq (alt a b) next).ways t = (seq a next).ways t ++ (seq b next).ways t :=
  List.flatMap_append

/-- Where a round can be gone, it is, and others behind it. -/
theorem head?_rounds {round : Text → List (Way κ)} {fuel : Nat} {t rest rest' : Text}
    {groups more : List (κ × Text)} (found : (round t).head? = some (groups, rest))
    (shorter : rest.length < t.length)
    (goesOn : (rounds round false fuel rest).head? = some (more, rest')) :
    (rounds round false (fuel + 1) t).head? = some (groups ++ more, rest') := by
  have first : ((round t).filter (·.2.length < t.length)).head? = some (groups, rest) := by
    obtain ⟨others, ways⟩ := List.head?_eq_some_iff.mp found
    rw [ways, List.filter_cons_of_pos (by exact decide_eq_true shorter)]
    rfl
  rw [rounds, if_neg Bool.false_ne_true, List.head?_append, head?_chain first goesOn]
  rfl

/-- Where no round can be gone, none is. -/
theorem rounds_of_nil {round : Text → List (Way κ)} {t : Text} (stuck : round t = [])
    (fewer : Bool) (fuel : Nat) : rounds round fewer fuel t = [([], t)] := by
  cases fuel with
  | zero => rfl
  | succ fuel => cases fewer <;> simp [rounds, chain, stuck]

/-! ## Runs of characters -/

/-- The ways to cut a text behind characters of a class, the first place first. -/
def splits (p : Char → Bool) : Text → List (Text × Text)
  | [] => [([], [])]
  | c :: rest =>
    ([], c :: rest) :: if p c then (splits p rest).map fun s => (c :: s.1, s.2) else []

variable {p : Char → Bool} {t : Text}

theorem of_mem_splits {s : Text × Text} (member : s ∈ splits p t) :
    (∀ c ∈ s.1, p c = true) ∧ t = s.1 ++ s.2 := by
  induction t generalizing s with
  | nil =>
      obtain rfl := List.mem_singleton.mp member
      exact ⟨List.forall_mem_nil _, rfl⟩
  | cons c rest ih =>
      rw [splits] at member
      rcases List.mem_cons.mp member with rfl | member
      · exact ⟨List.forall_mem_nil _, rfl⟩
      · split at member
        · rename_i first
          obtain ⟨later, inRest, rfl⟩ := List.mem_map.mp member
          obtain ⟨others, eq⟩ := ih inRest
          exact ⟨List.forall_mem_cons.mpr ⟨first, others⟩, congrArg (c :: ·) eq⟩
        · cases member

/-- The last cut is where the run of such characters ends. -/
theorem getLast?_splits (p : Char → Bool) (t : Text) :
    (splits p t).getLast? = some (t.takeWhile p, t.dropWhile p) := by
  induction t with
  | nil => rfl
  | cons c rest ih =>
      cases first : p c with
      | true => simp [splits, first, List.getLast?_cons, ih]
      | false => simp [splits, first]

/-- The first cut from which something comes, if nothing comes from the cuts before it. -/
theorem head?_splits {α : Type} {body : Text} (letters : ∀ c ∈ body, p c = true)
    {f : Text × Text → List α} {found : α} (goesOn : (f (body, t)).head? = some found)
    (stuck : ∀ x y, body = x ++ y → y ≠ [] → f (x, y ++ t) = []) :
    ((splits p (body ++ t)).flatMap f).head? = some found := by
  induction body generalizing f with
  | nil =>
      cases t with
      | nil => simpa [splits] using goesOn
      | cons c rest =>
          rw [List.nil_append, splits, List.flatMap_cons, List.head?_append, goesOn]
          rfl
  | cons c body ih =>
      have none_ : f ([], c :: (body ++ t)) = [] :=
        stuck [] (c :: body) rfl (List.cons_ne_nil c body)
      rw [List.cons_append, splits, if_pos (letters c List.mem_cons_self), List.flatMap_cons, none_,
        List.nil_append, List.flatMap_map]
      refine ih (fun d member => letters d (List.mem_cons_of_mem c member)) goesOn ?_
      intro x y eq some_
      exact stuck (c :: x) y (congrArg (c :: ·) eq) some_

theorem rounds_one (p : Char → Bool) (fewer : Bool) {fuel : Nat} {t : Text}
    (enough : t.length ≤ fuel) :
    rounds (κ := κ) (one p).ways fewer fuel t =
      (if fewer then splits p t else (splits p t).reverse).map fun s => ([], s.2) := by
  induction t generalizing fuel with
  | nil => cases fuel <;> cases fewer <;> rfl
  | cons c rest ih =>
      obtain _ | fuel := fuel
      · exact absurd enough (Nat.not_succ_le_zero _)
      · have later := ih (Nat.le_of_succ_le_succ enough)
        cases first : p c with
        | true =>
            cases fewer <;> simp [rounds, chain, ways, splits, first, later, Function.comp_def]
        | false => cases fewer <;> simp [rounds, chain, ways, splits, first]

theorem ways_many_one (p : Char → Bool) (t : Text) :
    (many (κ := κ) (one p)).ways t = (splits p t).reverse.map fun s => ([], s.2) :=
  rounds_one p false (Nat.le_refl t.length)

theorem ways_few_one (p : Char → Bool) (t : Text) :
    (few (κ := κ) (one p)).ways t = (splits p t).map fun s => ([], s.2) :=
  rounds_one p true (Nat.le_refl t.length)

theorem head?_ways_many_one (p : Char → Bool) (t : Text) :
    ((many (κ := κ) (one p)).ways t).head? = some ([], t.dropWhile p) := by
  rw [ways_many_one, List.head?_map, List.head?_reverse, getLast?_splits]
  rfl

/-- Wherever a run of characters ends, only such characters come before. -/
theorem of_mem_ways_many_one {way : Way κ} (member : way ∈ (many (one p)).ways t) :
    ∃ run, (∀ c ∈ run, p c = true) ∧ t = run ++ way.2 := by
  rw [ways_many_one] at member
  obtain ⟨s, inSplits, rfl⟩ := List.mem_map.mp member
  exact ⟨s.1, of_mem_splits (List.mem_reverse.mp inSplits)⟩

theorem ways_group_few_one (name : κ) (p : Char → Bool) (t : Text) :
    (group name (few (one p))).ways t = (splits p t).map fun s => ([(name, s.1)], s.2) := by
  rw [ways, ways_few_one, List.map_map]
  refine List.map_congr_left fun s member => ?_
  have cut : t.length - s.2.length = s.1.length := by
    rw [(of_mem_splits member).2, List.length_append, Nat.add_sub_cancel]
  simp only [Function.comp_apply, List.nil_append, cut]
  conv => lhs; rw [(of_mem_splits member).2, List.take_left]

/-! ## Blanks -/

def blanks : Pattern κ :=
  many (one isBlank)

section Blanks

variable {next : Pattern κ}

theorem head?_seq_blanks {way : Way κ} (goesOn : (next.ways (trimStart t)).head? = some way) :
    ((seq blanks next).ways t).head? = some way :=
  head?_chain (head?_ways_many_one isBlank t) goesOn

/-- Nothing goes on behind blanks if nothing goes on behind all of them, nor from a blank. -/
theorem ways_seq_blanks_eq_nil
    (letter : ∀ c rest, isBlank c = true → next.ways (c :: rest) = [])
    (stuck : next.ways (trimStart t) = []) : (seq blanks next).ways t = [] := by
  refine chain_eq_nil fun way member => ?_
  obtain ⟨run, blank, eq⟩ := of_mem_ways_many_one member
  have start : trimStart t = trimStart way.2 := by rw [eq, trimStart_blanks blank]
  cases left : way.2 with
  | nil =>
      rw [start, left] at stuck
      exact stuck
  | cons c rest =>
      cases blankFirst : isBlank c with
      | true => exact letter c rest blankFirst
      | false =>
          have whole : trimStart (c :: rest) = c :: rest := by simp [trimStart, blankFirst]
          rwa [start, left, whole] at stuck

/-- A group that takes as few characters as possible, with blanks behind it, is trimmed at its end,
if all blanks are among these characters and nothing else goes on from one of them. -/
theorem head?_trimmed {name : κ} {b h rest : Text} {more : List (κ × Text)}
    (letters : ∀ c ∈ b, p c = true) (blank : ∀ c, isBlank c = true → p c = true)
    (apart : ∀ c rest, p c = true → next.ways (c :: rest) = [])
    (goesOn : (next.ways (trimStart h)).head? = some (more, rest)) :
    ((seq (group name (few (one p))) (seq blanks next)).ways (b ++ h)).head? =
      some ((name, trimEnd b) :: more, rest) := by
  obtain ⟨behind, blanksBehind, eq⟩ := exists_trimEnd b
  have within : ∀ c ∈ trimEnd b, p c = true :=
    fun c member => letters c ((prefix_trimEnd b).subset member)
  have whole : b ++ h = trimEnd b ++ (behind ++ h) := by rw [← List.append_assoc, ← eq]
  rw [ways, chain, ways_group_few_one, List.flatMap_map, whole]
  refine head?_splits within ?_ ?_
  · have last : ((seq blanks next).ways (behind ++ h)).head? = some (more, rest) := by
      refine head?_seq_blanks ?_
      rwa [trimStart_blanks blanksBehind]
    rw [List.head?_map, last]
    rfl
  · intro x y cut some_
    have ends : trimStart y ≠ [] := by
      intro none_
      have shorter := congrArg trimEnd cut
      rw [trimEnd_trimEnd, trimEnd_blanks ((trimStart_eq_nil_iff y).mp none_), cut] at shorter
      have length := (prefix_trimEnd x).length_le
      rw [← shorter, List.length_append] at length
      exact some_ (List.length_eq_zero_iff.mp (by omega))
    obtain ⟨c, others, start⟩ := List.exists_cons_of_ne_nil ends
    have member : c ∈ trimEnd b := by
      have first : c ∈ trimStart y := start ▸ List.mem_cons_self
      rw [cut]
      exact List.mem_append_right x (trimStart_subset y first)
    have none_ : (seq blanks next).ways (y ++ (behind ++ h)) = [] := by
      refine ways_seq_blanks_eq_nil (fun d rest found => apart d rest (blank d found)) ?_
      rw [trimStart_append ends, start]
      exact apart c _ (within c member)
    rw [none_, List.map_nil]

end Blanks

end Pattern

end Beatsheet

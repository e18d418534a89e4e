/-
# Beatsheet.Proofs.Identity.Fresh — calls for names

For each name the source of identifiers is called once. Where names need not be unique a call is one
draw, so the names are the draws (`issue_eq_draws`). Where they are to be unique a call draws until
it comes to an identifier that was not issued before, and gives up after 64 draws (`Call`). The
calls of a run follow one another without a gap (`exists_calls`), and the names are distinct just if
no call gives up (`Calls.nodup_iff`).
-/
import Beatsheet.Proofs.Identity.Issue
import Mathlib.Data.List.GetD

set_option autoImplicit false

namespace Beatsheet.IdSource

variable {σ : Type} (source : IdSource σ)

/-! ## Draws -/

theorem draws_add (count more : Nat) (s : σ) :
    source.draws (count + more) s =
      let first := source.draws count s
      let second := source.draws more first.2
      (first.1 ++ second.1, second.2) := by
  induction count generalizing s with
  | zero => simp [draws]
  | succ n ih => simp [Nat.succ_add, draws, ih]

/-- Names that need not be unique are the draws. -/
theorem issue_eq_draws (count : Nat) (issued : List Text) (s : σ) :
    source.issue false count issued s = source.draws count s := by
  induction count generalizing issued s with
  | zero => rfl
  | succ n ih => simp [issue, next, draws, ih]

/-! ## One call -/

/-- A call that draws `drawn`, in at most so many attempts, and takes `name` when the names `issued`
were issued before: it goes on from nothing but such a name, and takes its last draw, which is new
unless there are no attempts left. -/
structure Call (attempts : Nat) (issued drawn : List Text) (name : Text) : Prop where
  last : drawn.getLast? = some name
  atMost : drawn.length ≤ attempts
  passed : ∀ other ∈ drawn.dropLast, other ∈ issued
  new : name ∉ issued ∨ drawn.length = attempts

section Call

variable {attempts : Nat} {issued issued' drawn : List Text} {name : Text}

theorem call_single (new : name ∉ issued ∨ attempts = 0) :
    Call (attempts + 1) issued [name] name where
  last := rfl
  atMost := Nat.le_add_left 1 attempts
  passed := by simp
  new := new.imp_right fun none_ => by simp [none_]

/-- A draw that was issued before, and the call that goes on from it. -/
theorem Call.cons {id : Text} (old : id ∈ issued) (call : Call attempts issued drawn name) :
    Call (attempts + 1) issued (id :: drawn) name := by
  obtain ⟨init, rfl⟩ := List.getLast?_eq_some_iff.mp call.last
  constructor
  · rw [← List.cons_append]
    exact List.getLast?_concat
  · exact Nat.succ_le_succ call.atMost
  · have passed := call.passed
    rw [List.dropLast_concat] at passed
    rw [← List.cons_append, List.dropLast_concat]
    intro other member
    rcases List.mem_cons.mp member with rfl | member
    · exact old
    · exact passed other member
  · exact call.new.imp_right fun all => congrArg (· + 1) all

theorem Call.congr (same : ∀ id, id ∈ issued ↔ id ∈ issued')
    (call : Call attempts issued drawn name) : Call attempts issued' drawn name where
  last := call.last
  atMost := call.atMost
  passed other member := (same other).mp (call.passed other member)
  new := call.new.imp_left fun new old => new ((same name).mpr old)

end Call

/-- Drawing again makes a call out of what was drawn first. -/
theorem exists_call_redraw (issued : List Text) (fuel : Nat) (id : Text) (s : σ) :
    ∃ more, source.draws more.length s = (more, (source.redraw issued fuel id s).2) ∧
      Call (fuel + 1) issued (id :: more) (source.redraw issued fuel id s).1 := by
  induction fuel generalizing id s with
  | zero => exact ⟨[], rfl, call_single (.inr rfl)⟩
  | succ n ih =>
      unfold redraw
      split
      · rename_i old
        obtain ⟨more, draws, call⟩ := ih (source.draw s).1 (source.draw s).2
        refine ⟨(source.draw s).1 :: more, ?_, call.cons (List.contains_iff_mem.mp old)⟩
        simp only [List.length_cons, IdSource.draws, draws]
      · rename_i new
        exact ⟨[], rfl, call_single (.inl fun old => new (List.contains_iff_mem.mpr old))⟩

theorem exists_call (issued : List Text) (s : σ) :
    ∃ drawn, source.draws drawn.length s = (drawn, (source.next true issued s).2) ∧
      Call 64 issued drawn (source.next true issued s).1 := by
  obtain ⟨more, draws, call⟩ :=
    source.exists_call_redraw issued redraws (source.draw s).1 (source.draw s).2
  refine ⟨(source.draw s).1 :: more, ?_, call⟩
  simp only [List.length_cons, IdSource.draws, draws]
  rfl

/-! ## All calls of a run -/

/-- The draws of the calls for these names, one call behind the other, from the state `s` to the
state `s'` of the source. -/
structure Calls (s : σ) (names : List Text) (s' : σ) (calls : List (List Text)) : Prop where
  length : calls.length = names.length
  draws : source.draws calls.flatten.length s = (calls.flatten, s')
  call : ∀ k < names.length, Call 64 (names.take k) (calls.getD k []) (names.getD k [])

/-- **Unique names are issued by calls**, each of which knows the names that were issued before. -/
theorem exists_calls (count : Nat) (s : σ) :
    ∃ calls, source.Calls s (source.issue true count [] s).1 (source.issue true count [] s).2
      calls := by
  induction count with
  | zero => exact ⟨[], rfl, rfl, by simp [issue]⟩
  | succ n ih =>
      obtain ⟨calls, length, draws, call⟩ := ih
      have number := source.length_issue true n [] s
      rw [source.issue_add true n 1 [] s]
      generalize source.issue true n [] s = before at number length draws call
      obtain ⟨drawn, drawsLast, callLast⟩ :=
        source.exists_call (before.1.reverse ++ []) before.2
      simp only [issue]
      refine ⟨calls ++ [drawn], ?_, ?_, ?_⟩
      · simp [length]
      · rw [List.flatten_append, List.flatten_singleton, List.length_append, source.draws_add,
          draws]
        dsimp only
        rw [drawsLast]
      · intro k started
        rcases Nat.lt_or_eq_of_le (Nat.le_of_lt_succ (by simpa [number] using started)) with
          earlier | rfl
        · have within : k < before.1.length := number.symm ▸ earlier
          have same := call k within
          simpa [List.take_append_of_le_length (Nat.le_of_lt within),
            List.getElem?_append_left within,
            List.getElem?_append_left (length ▸ within)] using same
        · have member : ∀ id, id ∈ before.1.reverse ++ [] ↔ id ∈ before.1 := by simp
          have last := callLast.congr member
          have atEnd : calls.length = k := length.trans number
          simpa [← number, ← length] using last

/-- No name is made up: each was drawn at some time. -/
theorem exists_draws_of_mem_issue (unique : Bool) {count : Nat} {s : σ} {name : Text}
    (issued : name ∈ (source.issue unique count [] s).1) : ∃ n, name ∈ (source.draws n s).1 := by
  cases unique with
  | false =>
      rw [issue_eq_draws] at issued
      exact ⟨count, issued⟩
  | true =>
      obtain ⟨calls, good⟩ := source.exists_calls count s
      obtain ⟨k, within, rfl⟩ := List.mem_iff_getElem.mp issued
      have called : k < calls.length := good.length ▸ within
      have last := (good.call k within).last
      rw [List.getD_eq_getElem _ _ called, List.getD_eq_getElem _ _ within] at last
      refine ⟨calls.flatten.length, ?_⟩
      rw [good.draws]
      exact List.mem_flatten_of_mem (List.getElem_mem called) (List.mem_of_getLast? last)

/-- Whether a call took a name that was issued before, for lack of a new one in 64 draws. -/
def GaveUp (issued drawn : List Text) : Prop :=
  drawn.length = 64 ∧ ∀ id ∈ drawn, id ∈ issued

/-- The name that a call takes is new just if the call did not give up. -/
theorem Call.new_iff {issued drawn : List Text} {name : Text} (call : Call 64 issued drawn name) :
    name ∉ issued ↔ ¬ GaveUp issued drawn := by
  obtain ⟨init, rfl⟩ := List.getLast?_eq_some_iff.mp call.last
  constructor
  · rintro new ⟨-, old⟩
    exact new (old name (List.mem_append_right init (List.mem_singleton_self name)))
  · intro goesOn old
    have all := call.new.resolve_left (not_not_intro old)
    have passed := call.passed
    rw [List.dropLast_concat] at passed
    refine goesOn ⟨all, fun id member => ?_⟩
    rcases List.mem_append.mp member with before | last
    · exact passed id before
    · exact List.mem_singleton.mp last ▸ old

/-- Names are distinct just if each is new when it is issued. -/
theorem nodup_iff_not_mem_take (names : List Text) :
    names.Nodup ↔ ∀ k < names.length, names.getD k [] ∉ names.take k := by
  rw [List.Nodup, List.pairwise_iff_getElem]
  constructor
  · intro distinct k within old
    obtain ⟨j, before, same⟩ := List.mem_take_iff_getElem.mp old
    rw [names.getD_eq_getElem [] within] at same
    have earlier : j < k := Nat.lt_of_lt_of_le before (Nat.min_le_left _ _)
    exact distinct j k (Nat.lt_trans earlier within) within earlier same
  · intro new j k _ within earlier same
    refine new k within (List.mem_take_iff_getElem.mpr ⟨j, by omega, ?_⟩)
    rw [names.getD_eq_getElem [] within, same]

/-- **The names are distinct just if no call gives up.** -/
theorem Calls.nodup_iff {source : IdSource σ} {s s' : σ} {names : List Text}
    {calls : List (List Text)} (good : source.Calls s names s' calls) :
    names.Nodup ↔ ∀ k < names.length, ¬ GaveUp (names.take k) (calls.getD k []) := by
  rw [nodup_iff_not_mem_take]
  exact forall₂_congr fun k started => (good.call k started).new_iff

end Beatsheet.IdSource

/-
# Beatsheet.Proofs.Group.Ledger — the ledger of groups

Of all that a script holds, a ledger keeps only what the snippets say of groups of alternatives: to
which group each belongs and as which member (`Place`), and how many members it believes there are
(`Mark`). The marks come in the order of the script and in two parts, for what is said once a group
ends reaches only the snippets of the open block: `here` are those, `away` the ones before.

`Ledger.Step` says what may happen to a ledger, and three invariants say what every step keeps:

* `Placed`: the members of a group follow each other without a gap and are numbered from zero, and
  groups come in the order of their ordinals;
* `Counted`: where a mark has a count it is that of the members there are, and the members of a
  group that goes on have none;
* `Settled`: once no group goes on, all members in the open block have their count.
-/
import Beatsheet.Forest.Basic
import Mathlib.Data.List.Induction

set_option autoImplicit false

namespace Beatsheet

/-- The place of a snippet among the groups. -/
structure Place where
  group : Option Nat
  index : Option Nat
  deriving DecidableEq, Repr

/-- All that a snippet says of groups. -/
structure Mark where
  place : Place
  count : Option Nat
  deriving DecidableEq, Repr

/-- A mark says of a group that a snippet belongs to it, and not how many there are. -/
def Mark.Open (m : Mark) : Prop :=
  m.place.group.isSome = true ∧ m.count = none

structure Ledger where
  away : List Mark
  here : List Mark
  groups : Nat
  ongoing : Bool
  members : Nat

namespace Ledger

def marks (l : Ledger) : List Mark :=
  l.away ++ l.here

def places (l : Ledger) : List Place :=
  l.marks.map (·.place)

/-- The places of the members of a group. -/
def placesOf (l : Ledger) (group : Nat) : List Place :=
  l.places.filter (·.group == some group)

/-- The mark, with the count of members if it is of the last group. -/
def told (l : Ledger) (m : Mark) : Mark :=
  if m.place.group = some l.groups then { m with count := some l.members } else m

@[simp] theorem place_told (l : Ledger) (m : Mark) : (l.told m).place = m.place := by
  unfold told
  split <;> rfl

/-- Puts a snippet that has just got its first beat at the end. -/
def put (l : Ledger) (p : Place) : Ledger :=
  { l with here := l.here ++ [⟨p, none⟩] }

/-- What may happen to a ledger. -/
inductive Step : Ledger → Ledger → Prop
  | stay (l : Ledger) : Step l l
  | outside (l : Ledger) (shut : l.ongoing = false) : Step l (l.put ⟨none, none⟩)
  | member (l : Ledger) (goesOn : l.ongoing = true) :
      Step l { l.put ⟨some l.groups, some l.members⟩ with members := l.members + 1 }
  | begins (l : Ledger) (shut : l.ongoing = false) :
      Step l { l with groups := l.groups + 1, ongoing := true, members := 0 }
  | ends (l : Ledger) (goesOn : l.ongoing = true) :
      Step l { l with here := l.here.map l.told, ongoing := false }
  | header (l : Ledger) : Step l { l with away := l.away ++ l.here, here := [] }

/-! ## Places -/

/-- Places at the end of a ledger. -/
theorem places_put (l : Ledger) (p : Place) : (l.put p).places = l.places ++ [p] := by
  simp [places, marks, put]

theorem placesOf_put (l : Ledger) (p : Place) (n : Nat) :
    (l.put p).placesOf n = l.placesOf n ++ if p.group = some n then [p] else [] := by
  simp only [placesOf, places_put, List.filter_append]
  by_cases belongs : p.group = some n
  · simp [belongs]
  · simp [belongs, beq_false_of_ne]

theorem placesOf_congr {l l' : Ledger} (places : l'.places = l.places) (n : Nat) :
    l'.placesOf n = l.placesOf n := by
  rw [placesOf, places, placesOf]

theorem places_ends (l : Ledger) :
    ({ l with here := l.here.map l.told, ongoing := false } : Ledger).places = l.places := by
  simp [places, marks, Function.comp_def]

theorem places_header (l : Ledger) :
    ({ l with away := l.away ++ l.here, here := [] } : Ledger).places = l.places := by
  simp [places, marks]

structure Placed (l : Ledger) : Prop where
  indexed : ∀ p ∈ l.places, p.group.isSome = p.index.isSome
  bounded : ∀ p ∈ l.places, ∀ n, p.group = some n → n ≤ l.groups
  sorted : (l.places.filterMap (·.group)).Pairwise (· ≤ ·)
  together : ∀ n, l.placesOf n <:+: l.places
  last : l.ongoing = true → l.placesOf l.groups <:+ l.places
  numbered : ∀ n, (l.placesOf n).map (·.index) = (List.range (l.placesOf n).length).map some
  members : l.ongoing = true → l.members = (l.placesOf l.groups).length

variable {l l' : Ledger}

/-- Only the places count, and whether a group goes on. -/
theorem Placed.congr (placed : l.Placed) (places : l'.places = l.places)
    (groups : l'.groups = l.groups)
    (goesOn : l'.ongoing = true → l.ongoing = true ∧ l'.members = l.members) : l'.Placed := by
  have same := placesOf_congr places
  refine ⟨?_, ?_, ?_, ?_, ?_, ?_, ?_⟩
  · exact places ▸ placed.indexed
  · rw [places, groups]
    exact placed.bounded
  · exact places ▸ placed.sorted
  · intro n
    rw [same, places]
    exact placed.together n
  · intro ongoing
    rw [same, places, groups]
    exact placed.last (goesOn ongoing).1
  · intro n
    rw [same]
    exact placed.numbered n
  · intro ongoing
    rw [same, groups, (goesOn ongoing).2]
    exact placed.members (goesOn ongoing).1

/-- A group that begins has no members, for no ordinal is above those so far. -/
theorem Placed.placesOf_next (placed : l.Placed) : l.placesOf (l.groups + 1) = [] := by
  rw [placesOf, List.filter_eq_nil_iff]
  intro p member belongs
  have bound := placed.bounded p member _ (eq_of_beq belongs)
  omega

theorem Placed.begins (placed : l.Placed) :
    ({ l with groups := l.groups + 1, ongoing := true, members := 0 } : Ledger).Placed := by
  have none_ := placed.placesOf_next
  refine ⟨placed.indexed, ?_, placed.sorted, placed.together, ?_, placed.numbered, ?_⟩
  · intro p member n belongs
    exact Nat.le_succ_of_le (placed.bounded p member n belongs)
  · intro _
    exact none_ ▸ List.nil_suffix
  · intro _
    exact (congrArg List.length none_).symm

/-- A snippet outside all groups. -/
theorem Placed.outside (placed : l.Placed) (shut : l.ongoing = false) :
    (l.put ⟨none, none⟩).Placed := by
  have same : ∀ n, (l.put ⟨none, none⟩).placesOf n = l.placesOf n := by
    intro n
    rw [placesOf_put]
    simp
  have notOn : (l.put ⟨none, none⟩).ongoing ≠ true := by
    simp [put, shut]
  refine ⟨?_, ?_, ?_, ?_, fun goesOn => absurd goesOn notOn, ?_, fun goesOn => absurd goesOn notOn⟩
  · rw [places_put]
    exact List.forall_mem_append.mpr ⟨placed.indexed, List.forall_mem_singleton.mpr rfl⟩
  · rw [places_put]
    refine List.forall_mem_append.mpr ⟨placed.bounded, List.forall_mem_singleton.mpr ?_⟩
    intro n belongs
    cases belongs
  · rw [places_put]
    simpa using placed.sorted
  · intro n
    rw [same, places_put]
    exact (placed.together n).trans (List.prefix_append _ _).isInfix
  · intro n
    rw [same]
    exact placed.numbered n

/-- A member of the group that goes on comes behind all others, and its number is that of the
members before it. -/
theorem Placed.member (placed : l.Placed) (goesOn : l.ongoing = true) :
    ({ l.put ⟨some l.groups, some l.members⟩ with members := l.members + 1 } : Ledger).Placed := by
  let p : Place := ⟨some l.groups, some l.members⟩
  have places : (l.put p).places = l.places ++ [p] := l.places_put p
  have own : (l.put p).placesOf l.groups = l.placesOf l.groups ++ [p] := by
    rw [placesOf_put, if_pos rfl]
  have others : ∀ n, n ≠ l.groups → (l.put p).placesOf n = l.placesOf n := by
    intro n other
    rw [placesOf_put, if_neg (fun same => other (Option.some.inj same).symm), List.append_nil]
  have last : (l.put p).placesOf l.groups <:+ (l.put p).places := by
    obtain ⟨front, split⟩ := placed.last goesOn
    refine ⟨front, ?_⟩
    rw [own, places, ← List.append_assoc, split]
  have bounded : ∀ q ∈ (l.put p).places, ∀ n, q.group = some n → n ≤ l.groups := by
    rw [places]
    refine List.forall_mem_append.mpr ⟨placed.bounded, List.forall_mem_singleton.mpr ?_⟩
    intro n belongs
    exact Nat.le_of_eq (Option.some.inj belongs).symm
  have counts := placed.members goesOn
  show Placed { l.put p with members := l.members + 1 }
  refine ⟨?_, bounded, ?_, ?_, fun _ => last, ?_, ?_⟩
  · show ∀ q ∈ (l.put p).places, _
    rw [places]
    exact List.forall_mem_append.mpr ⟨placed.indexed, List.forall_mem_singleton.mpr rfl⟩
  · show ((l.put p).places.filterMap (·.group)).Pairwise (· ≤ ·)
    rw [places, List.filterMap_append, List.pairwise_append]
    refine ⟨placed.sorted, List.pairwise_singleton _ _, ?_⟩
    intro n old m new
    obtain ⟨q, member, belongs⟩ := List.mem_filterMap.mp old
    have here : m = l.groups := by simpa [p] using new
    rw [here]
    exact placed.bounded q member n belongs
  · intro n
    show (l.put p).placesOf n <:+: (l.put p).places
    by_cases same : n = l.groups
    · subst same
      exact last.isInfix
    · rw [others n same, places]
      exact (placed.together n).trans (List.prefix_append _ _).isInfix
  · intro n
    show ((l.put p).placesOf n).map (·.index) = (List.range ((l.put p).placesOf n).length).map some
    by_cases same : n = l.groups
    · subst same
      rw [own, List.map_append, placed.numbered, List.length_append, List.length_singleton,
        List.range_succ, List.map_append, ← counts]
      rfl
    · rw [others n same]
      exact placed.numbered n
  · intro _
    show l.members + 1 = ((l.put p).placesOf l.groups).length
    rw [own, List.length_append, List.length_singleton, counts]

theorem Placed.step (step : Step l l') (placed : l.Placed) : l'.Placed := by
  cases step with
  | stay => exact placed
  | outside shut => exact placed.outside shut
  | member goesOn => exact placed.member goesOn
  | begins shut => exact placed.begins
  | ends goesOn =>
      refine placed.congr l.places_ends rfl fun ongoing => ?_
      exact absurd ongoing Bool.false_ne_true
  | header => exact placed.congr l.places_header rfl fun ongoing => ⟨ongoing, rfl⟩

/-! ## Counts -/

structure Counted (l : Ledger) : Prop where
  total : ∀ m ∈ l.marks, ∀ c, m.count = some c →
    ∃ n, m.place.group = some n ∧ c = (l.placesOf n).length
  waits : l.ongoing = true → ∀ m ∈ l.marks, m.place.group = some l.groups → m.count = none

theorem marks_put (l : Ledger) (p : Place) : (l.put p).marks = l.marks ++ [⟨p, none⟩] := by
  simp [marks, put]

theorem Counted.outside (counted : l.Counted) (shut : l.ongoing = false) :
    (l.put ⟨none, none⟩).Counted := by
  have notOn : (l.put ⟨none, none⟩).ongoing ≠ true := by
    simp [put, shut]
  refine ⟨?_, fun goesOn => absurd goesOn notOn⟩
  rw [marks_put]
  refine List.forall_mem_append.mpr ⟨?_, List.forall_mem_singleton.mpr ?_⟩
  · intro m member c known
    obtain ⟨n, belongs, total⟩ := counted.total m member c known
    refine ⟨n, belongs, ?_⟩
    rw [placesOf_put]
    simpa using total
  · intro c known
    cases known

/-- A member more changes no count, for the members of a group that goes on have none. -/
theorem Counted.member (counted : l.Counted) (goesOn : l.ongoing = true) :
    ({ l.put ⟨some l.groups, some l.members⟩ with members := l.members + 1 } : Ledger).Counted := by
  let p : Place := ⟨some l.groups, some l.members⟩
  show Counted { l.put p with members := l.members + 1 }
  constructor
  · show ∀ m ∈ (l.put p).marks, ∀ c, m.count = some c →
      ∃ n, m.place.group = some n ∧ c = ((l.put p).placesOf n).length
    rw [marks_put]
    refine List.forall_mem_append.mpr ⟨?_, List.forall_mem_singleton.mpr ?_⟩
    · intro m member c known
      obtain ⟨n, belongs, total⟩ := counted.total m member c known
      have other : l.groups ≠ n := by
        intro same
        have waits := counted.waits goesOn m member (same ▸ belongs)
        rw [known] at waits
        cases waits
      refine ⟨n, belongs, ?_⟩
      rw [placesOf_put, if_neg (fun same => other (Option.some.inj same)), List.append_nil]
      exact total
    · intro c known
      cases known
  · intro _
    show ∀ m ∈ (l.put p).marks, m.place.group = some l.groups → m.count = none
    rw [marks_put]
    exact List.forall_mem_append.mpr
      ⟨counted.waits goesOn, List.forall_mem_singleton.mpr fun _ => rfl⟩

theorem Counted.begins (counted : l.Counted) (placed : l.Placed) :
    ({ l with groups := l.groups + 1, ongoing := true, members := 0 } : Ledger).Counted := by
  refine ⟨counted.total, fun _ m member belongs => ?_⟩
  have bound := placed.bounded m.place (List.mem_map_of_mem member) _ belongs
  have above : l.groups + 1 ≤ l.groups := bound
  omega

/-- What is said once a group ends is the number of its members. -/
theorem Counted.ends (counted : l.Counted) (placed : l.Placed) (goesOn : l.ongoing = true) :
    ({ l with here := l.here.map l.told, ongoing := false } : Ledger).Counted := by
  have same := placesOf_congr l.places_ends
  refine ⟨?_, fun ongoing => absurd ongoing Bool.false_ne_true⟩
  intro m member c known
  rcases List.mem_append.mp member with old | new
  · obtain ⟨n, belongs, total⟩ := counted.total m (List.mem_append_left _ old) c known
    exact ⟨n, belongs, (same n).symm ▸ total⟩
  · obtain ⟨m, here, rfl⟩ := List.mem_map.mp new
    rw [place_told]
    by_cases last : m.place.group = some l.groups
    · rw [told, if_pos last] at known
      refine ⟨l.groups, last, ?_⟩
      rw [same, ← placed.members goesOn]
      exact (Option.some.inj known).symm
    · rw [told, if_neg last] at known
      obtain ⟨n, belongs, total⟩ := counted.total m (List.mem_append_right _ here) c known
      exact ⟨n, belongs, (same n).symm ▸ total⟩

theorem Counted.header (counted : l.Counted) :
    ({ l with away := l.away ++ l.here, here := [] } : Ledger).Counted := by
  have marks : ({ l with away := l.away ++ l.here, here := [] } : Ledger).marks = l.marks :=
    List.append_nil _
  refine ⟨?_, ?_⟩
  · rw [marks]
    intro m member c known
    obtain ⟨n, belongs, total⟩ := counted.total m member c known
    exact ⟨n, belongs, (placesOf_congr l.places_header n).symm ▸ total⟩
  · rw [marks]
    exact counted.waits

theorem Counted.step (step : Step l l') (placed : l.Placed) (counted : l.Counted) :
    l'.Counted := by
  cases step with
  | stay => exact counted
  | outside shut => exact counted.outside shut
  | member goesOn => exact counted.member goesOn
  | begins shut => exact counted.begins placed
  | ends goesOn => exact counted.ends placed goesOn
  | header => exact counted.header

/-! ## What is still open -/

/-- In the open block only members of the group that goes on have no count. -/
def Settled (l : Ledger) : Prop :=
  ∀ m ∈ l.here, m.Open → l.ongoing = true ∧ m.place.group = some l.groups

theorem Settled.step (step : Step l l') (settled : l.Settled) : l'.Settled := by
  cases step with
  | stay => exact settled
  | outside shut =>
      refine List.forall_mem_append.mpr ⟨settled, List.forall_mem_singleton.mpr ?_⟩
      rintro ⟨belongs, -⟩
      cases belongs
  | member goesOn =>
      exact List.forall_mem_append.mpr
        ⟨settled, List.forall_mem_singleton.mpr fun _ => ⟨goesOn, rfl⟩⟩
  | begins shut =>
      intro m member isOpen
      have goesOn := (settled m member isOpen).1
      rw [shut] at goesOn
      cases goesOn
  | ends goesOn =>
      intro m member isOpen
      obtain ⟨m, old, rfl⟩ := List.mem_map.mp member
      unfold told at isOpen
      split at isOpen
      · exact absurd isOpen.2 (Option.some_ne_none _)
      · rename_i other
        exact absurd (settled m old isOpen).2 other
  | header =>
      intro m member
      cases member

/-! ## All of it -/

structure Sound (l : Ledger) : Prop where
  placed : l.Placed
  counted : l.Counted
  settled : l.Settled

/-- **Whatever happens to a ledger keeps it sound.** -/
theorem Sound.step (step : Step l l') (sound : l.Sound) : l'.Sound :=
  ⟨sound.placed.step step, sound.counted.step step sound.placed, sound.settled.step step⟩

theorem sound_empty : Sound ⟨[], [], 0, false, 0⟩ := by
  refine ⟨⟨?_, ?_, ?_, ?_, ?_, ?_, ?_⟩, ⟨?_, ?_⟩, ?_⟩
  all_goals simp [places, marks, placesOf, Settled]

end Ledger

end Beatsheet

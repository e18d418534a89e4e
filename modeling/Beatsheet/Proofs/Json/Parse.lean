/-
# Beatsheet.Proofs.Json.Parse — just what spells a value is read

A text is read as a value just if it spells it (`parse_eq_ok_iff`). In one direction the induction
is on the spelling: it is about reading in front of any text that cannot go on with a number, up to
blanks behind the value (`Accepts`). In the other it is on the fuel, for a value, for the items and
members behind the first, and for a member at once (`Sound`).
-/
import Beatsheet.Proofs.Json.Spelling

set_option autoImplicit false

namespace Beatsheet.Json

/-! ## Reading what is spelled -/

/-- The text is read as the value, wherever it stands; blanks at its end may be left. -/
def Accepts (levels : Nat) (t : Text) (j : Json) : Prop :=
  ∀ fuel rest, 2 * t.length ≤ fuel → Ends rest → ∃ trail, (∀ c ∈ trail, isSpace c = true) ∧
    value true fuel levels (t ++ rest) = .ok (j, trail ++ rest)

/-- What a spelling of a value starts with, blanks apart, ends neither an array nor an object. -/
theorem Spells.start {depth : Nat} {t : Text} {j : Json} (spells : Spells depth t j)
    (rest : Text) : ∃ c u, skipSpace (t ++ rest) = c :: u ∧ isSpace c = false ∧ c ≠ ']' := by
  induction spells generalizing rest with
  | @blanks depth lead t trail j leads trails _ ih =>
      obtain ⟨c, u, start, solid⟩ := ih (trail ++ rest)
      refine ⟨c, u, ?_, solid⟩
      rw [List.append_assoc, List.append_assoc, skipSpace_append leads, start]
  | null => exact ⟨'n', _, rfl, rfl, by decide⟩
  | bool depth b =>
      cases b with
      | false => exact ⟨'f', _, rfl, rfl, by decide⟩
      | true => exact ⟨'t', _, rfl, rfl, by decide⟩
  | number depth number =>
      obtain ⟨c, t, rfl, starts, -⟩ := number.scalar
      rcases starts with rfl | digit
      · exact ⟨'-', _, rfl, rfl, by decide⟩
      · refine ⟨c, t ++ rest, ?_, isSpace_of_isDigit digit, ne_of_isDigit digit rfl⟩
        exact skipSpace_cons (isSpace_of_isDigit digit) _
  | str => exact ⟨'"', _, rfl, rfl, by decide⟩
  | emptyArr => exact ⟨'[', _, rfl, rfl, by decide⟩
  | arr => exact ⟨'[', _, rfl, rfl, by decide⟩
  | emptyObj => exact ⟨'\x7b', _, rfl, rfl, by decide⟩
  | obj => exact ⟨'\x7b', _, rfl, rfl, by decide⟩

section Items

variable {levels : Nat}

theorem moreItems_blanks {blanks : Text} (blank : ∀ c ∈ blanks, isSpace c = true) (fuel : Nat)
    (t : Text) : moreItems true fuel levels (blanks ++ t) = moreItems true fuel levels t := by
  cases fuel with
  | zero => simp only [moreItems]
  | succ fuel => simp only [moreItems, skipSpace_append blank]

theorem moreMembers_blanks {blanks : Text} (blank : ∀ c ∈ blanks, isSpace c = true) (fuel : Nat)
    (t : Text) : moreMembers true fuel levels (blanks ++ t) = moreMembers true fuel levels t := by
  cases fuel with
  | zero => simp only [moreMembers]
  | succ fuel => simp only [moreMembers, skipSpace_append blank]

/-- Items are followed by a comma or by the end of the array. -/
theorem ends_flatMap {α : Type} (text : α → Text) (parts : List α) {close : Char}
    (closes : close = ']' ∨ close = '\x7d') (rest : Text) :
    Ends (parts.flatMap (fun p => ',' :: text p) ++ close :: rest) := by
  cases parts with
  | nil =>
      rcases closes with rfl | rfl
      all_goals exact ends_cons (by decide) (by decide) (by decide) (by decide) rest
  | cons p parts => exact ends_cons (by decide) (by decide) (by decide) (by decide) _

theorem moreItems_flatMap {parts : List (Text × Json)}
    (each : ∀ p ∈ parts, Accepts levels p.1 p.2) (fuel : Nat)
    (enough : 2 * (parts.flatMap (',' :: ·.1)).length + 1 ≤ fuel) (rest : Text) :
    moreItems true fuel levels (parts.flatMap (',' :: ·.1) ++ ']' :: rest) =
      .ok (parts.map Prod.snd, rest) := by
  induction parts generalizing fuel with
  | nil =>
      obtain ⟨fuel, rfl, -⟩ := exists_fuel enough
      simp only [moreItems, List.flatMap_nil, List.nil_append, skipSpace_cons (c := ']') rfl]
      rfl
  | cons p parts ih =>
      obtain ⟨fuel, rfl, enough⟩ := exists_fuel enough
      simp only [List.flatMap_cons, List.length_cons, List.length_append] at enough
      obtain ⟨trail, trails, first⟩ := each p List.mem_cons_self fuel _ (by omega)
        (ends_flatMap Prod.fst parts (.inl rfl) rest)
      have more := ih (fun q member => each q (List.mem_cons_of_mem _ member)) fuel (by omega)
      simp only [List.flatMap_cons, List.cons_append, List.append_assoc, moreItems_comma, first,
        bind, Except.bind, moreItems_blanks trails, more]
      rfl

theorem MemberText.length_body (m : MemberText) : m.body.length + 3 ≤ m.text.length := by
  simp only [text, List.length_append, List.length_cons]
  omega

/-- A member is read with one more step than its value. -/
theorem member_text {m : MemberText} (spelled : m.Spelled) (accepts : Accepts levels m.body m.value)
    (fuel : Nat) (enough : 2 * m.body.length + 1 ≤ fuel) {rest : Text} (ends : Ends rest) :
    ∃ trail, (∀ c ∈ trail, isSpace c = true) ∧
      member true fuel levels (skipSpace (m.text ++ rest)) = .ok (m.member, trail ++ rest) := by
  obtain ⟨less, rfl, forValue⟩ := exists_fuel enough
  obtain ⟨trail, trails, read⟩ := accepts less rest forValue ends
  refine ⟨trail, trails, ?_⟩
  have start : skipSpace (m.text ++ rest) =
      '"' :: (m.key ++ '"' :: (m.gap ++ ':' :: (m.body ++ rest))) := by
    rw [MemberText.text, List.append_assoc, skipSpace_append spelled.lead]
    simp [skipSpace_cons (c := '"') rfl]
  have colon : skipSpace (m.gap ++ ':' :: (m.body ++ rest)) = ':' :: (m.body ++ rest) := by
    rw [skipSpace_append spelled.gap, skipSpace_cons (c := ':') rfl]
  simp only [start, member, stringRest_of_spellsText spelled.key, bind, Except.bind, colon, read]
  rfl

theorem moreMembers_flatMap {parts : List MemberText} (spelled : ∀ m ∈ parts, m.Spelled)
    (each : ∀ m ∈ parts, Accepts levels m.body m.value) (fuel : Nat)
    (enough : 2 * (parts.flatMap (',' :: ·.text)).length + 1 ≤ fuel) (rest : Text) :
    moreMembers true fuel levels (parts.flatMap (',' :: ·.text) ++ '\x7d' :: rest) =
      .ok (parts.map MemberText.member, rest) := by
  induction parts generalizing fuel with
  | nil =>
      obtain ⟨fuel, rfl, -⟩ := exists_fuel enough
      simp only [moreMembers, List.flatMap_nil, List.nil_append, skipSpace_cons (c := '\x7d') rfl]
      rfl
  | cons m parts ih =>
      obtain ⟨fuel, rfl, enough⟩ := exists_fuel enough
      have size := m.length_body
      simp only [List.flatMap_cons, List.length_cons, List.length_append] at enough
      obtain ⟨trail, trails, first⟩ := member_text (spelled m List.mem_cons_self)
        (each m List.mem_cons_self) fuel (by omega)
        (ends_flatMap MemberText.text parts (.inr rfl) rest)
      have more := ih (fun q member => spelled q (List.mem_cons_of_mem _ member))
        (fun q member => each q (List.mem_cons_of_mem _ member)) fuel (by omega)
      simp only [List.flatMap_cons, List.cons_append, List.append_assoc, moreMembers_comma, first,
        bind, Except.bind, moreMembers_blanks trails, more]
      rfl

end Items

/-- What starts neither an array nor an object is a scalar. -/
theorem accepts_scalar {levels : Nat} {c : Char} {t : Text} {j : Json} (solid : isSpace c = false)
    (noArray : c ≠ '[') (noObject : c ≠ '\x7b')
    (reads : ∀ rest, Ends rest → scalar true (c :: t ++ rest) = .ok (j, rest)) :
    Accepts levels (c :: t) j := by
  intro fuel rest enough ends
  obtain ⟨fuel, rfl, -⟩ := exists_fuel (show fuel - 1 + 1 ≤ fuel by simp at enough; omega)
  refine ⟨[], nofun, ?_⟩
  rw [List.cons_append, value_scalar fuel levels _ solid noArray noObject]
  exact reads rest ends

section Brackets

variable {levels : Nat}

theorem accepts_emptyArr (deep : 1 < levels) {inside : Text}
    (blank : ∀ c ∈ inside, isSpace c = true) : Accepts levels ('[' :: (inside ++ [']'])) (.arr []) := by
  intro fuel rest enough _
  obtain ⟨fuel, rfl, -⟩ := exists_fuel (show fuel - 1 + 1 ≤ fuel by simp at enough; omega)
  have close : skipSpace (inside ++ (']' :: rest)) = ']' :: rest := by
    rw [skipSpace_append blank, skipSpace_cons (c := ']') rfl]
  refine ⟨[], nofun, ?_⟩
  simp only [List.cons_append, List.append_assoc, List.nil_append, value,
    skipSpace_cons (c := '[') rfl, close, if_neg (Nat.not_le.mpr deep)]

theorem accepts_arr (deep : 1 < levels) {first : Text × Json} {others : List (Text × Json)}
    (starts : ∀ rest, ∃ c u, skipSpace (first.1 ++ rest) = c :: u ∧ isSpace c = false ∧ c ≠ ']')
    (accepts : ∀ p ∈ first :: others, Accepts (levels - 1) p.1 p.2) :
    Accepts levels ('[' :: (first.1 ++ (others.flatMap (',' :: ·.1) ++ [']'])))
      (.arr ((first :: others).map Prod.snd)) := by
  intro fuel rest enough _
  simp only [List.length_cons, List.length_append] at enough
  obtain ⟨fuel, rfl, enough⟩ := exists_fuel (show fuel - 1 + 1 ≤ fuel by omega)
  obtain ⟨trail, trails, read⟩ := accepts first List.mem_cons_self fuel _ (by omega)
    (ends_flatMap Prod.fst others (.inl rfl) rest)
  have more := moreItems_flatMap (fun p member => accepts p (List.mem_cons_of_mem _ member)) fuel
    (by omega) rest
  obtain ⟨c, u, start, solid, notEnd⟩ := starts (others.flatMap (',' :: ·.1) ++ ']' :: rest)
  refine ⟨[], nofun, ?_⟩
  simp only [List.cons_append, List.append_assoc, List.nil_append]
  rw [value_array _ _ deep start solid notEnd]
  simp only [read, bind, Except.bind, moreItems_blanks trails, more]
  rfl

theorem accepts_emptyObj (deep : 1 < levels) {inside : Text}
    (blank : ∀ c ∈ inside, isSpace c = true) :
    Accepts levels ('\x7b' :: (inside ++ ['\x7d'])) (.obj []) := by
  intro fuel rest enough _
  obtain ⟨fuel, rfl, -⟩ := exists_fuel (show fuel - 1 + 1 ≤ fuel by simp at enough; omega)
  have close : skipSpace (inside ++ ('\x7d' :: rest)) = '\x7d' :: rest := by
    rw [skipSpace_append blank, skipSpace_cons (c := '\x7d') rfl]
  refine ⟨[], nofun, ?_⟩
  simp only [List.cons_append, List.append_assoc, List.nil_append, value,
    skipSpace_cons (c := '\x7b') rfl, close, if_neg (Nat.not_le.mpr deep)]

theorem accepts_obj (deep : 1 < levels) {first : MemberText} {others : List MemberText}
    (spelled : ∀ m ∈ first :: others, m.Spelled)
    (accepts : ∀ m ∈ first :: others, Accepts (levels - 1) m.body m.value) :
    Accepts levels ('\x7b' :: (first.text ++ (others.flatMap (',' :: ·.text) ++ ['\x7d'])))
      (.obj ((first :: others).map MemberText.member)) := by
  intro fuel rest enough _
  simp only [List.length_cons, List.length_append] at enough
  obtain ⟨fuel, rfl, enough⟩ := exists_fuel (show fuel - 1 + 1 ≤ fuel by omega)
  have size := first.length_body
  obtain ⟨trail, trails, read⟩ := member_text (spelled first List.mem_cons_self)
    (accepts first List.mem_cons_self) fuel (by omega)
    (ends_flatMap MemberText.text others (.inr rfl) rest)
  have more := moreMembers_flatMap (fun m member => spelled m (List.mem_cons_of_mem _ member))
    (fun m member => accepts m (List.mem_cons_of_mem _ member)) fuel (by omega) rest
  obtain ⟨u, start⟩ : ∃ u, skipSpace (first.text ++ (others.flatMap (',' :: ·.text) ++
      '\x7d' :: rest)) = '"' :: u := by
    rw [MemberText.text, List.append_assoc,
      skipSpace_append (spelled first List.mem_cons_self).lead]
    exact ⟨_, skipSpace_cons rfl _⟩
  refine ⟨[], nofun, ?_⟩
  simp only [List.cons_append, List.append_assoc, List.nil_append]
  rw [value_object _ _ deep start (by decide)]
  simp only [read, bind, Except.bind, moreMembers_blanks trails, more]
  rfl

end Brackets

/-- **A spelling of a value is read as that value, wherever it stands.** -/
theorem Spells.accepts {depth : Nat} {t : Text} {j : Json} (spells : Spells depth t j)
    {levels : Nat} (deep : depth < levels) : Accepts levels t j := by
  induction spells generalizing levels with
  | @blanks depth lead t trail j leads trails _ ih =>
      intro fuel rest enough ends
      simp only [List.length_append] at enough
      obtain ⟨left, lefts, read⟩ := ih deep fuel (trail ++ rest) (by omega)
        (ends_append trails ends)
      refine ⟨left ++ trail, ?_, ?_⟩
      · rw [List.forall_mem_append]
        exact ⟨lefts, trails⟩
      · rw [List.append_assoc, List.append_assoc, List.append_assoc, ← read]
        exact value_congr (skipSpace_append leads _) fuel levels
  | null => exact accepts_scalar rfl (by decide) (by decide) fun rest _ => rfl
  | bool depth b =>
      cases b with
      | false => exact accepts_scalar rfl (by decide) (by decide) fun rest _ => rfl
      | true => exact accepts_scalar rfl (by decide) (by decide) fun rest _ => rfl
  | number depth number =>
      obtain ⟨c, t, rfl, starts, reads⟩ := number.scalar
      have solid : isSpace c = false ∧ c ≠ '[' ∧ c ≠ '\x7b' := by
        rcases starts with rfl | digit
        · decide
        · exact ⟨isSpace_of_isDigit digit, ne_of_isDigit digit rfl, ne_of_isDigit digit rfl⟩
      exact accepts_scalar solid.1 solid.2.1 solid.2.2 fun rest => scalar_number starts reads
  | @str depth u t spells =>
      refine accepts_scalar rfl (by decide) (by decide) fun rest _ => ?_
      have read := stringRest_of_spellsText spells rest
      simp only [List.cons_append, List.append_assoc, List.nil_append, scalar, read]
      rfl
  | emptyArr depth blank => exact accepts_emptyArr (by omega) blank
  | @arr depth first others each ih =>
      refine accepts_arr (by omega) (each first List.mem_cons_self).start fun p member => ?_
      exact ih p member (by omega)
  | emptyObj depth blank => exact accepts_emptyObj (by omega) blank
  | obj spelled each ih =>
      refine accepts_obj (by omega) spelled fun m member => ?_
      exact ih m member (by omega)

/-! ## What is read is spelled -/

theorem exists_of_bind {α β : Type} {x : Except JsonFault α} {f : α → Except JsonFault β} {b : β}
    (read : x >>= f = .ok b) : ∃ a, x = .ok a ∧ f a = .ok b := by
  cases x with
  | error fault => cases read
  | ok a => exact ⟨a, rfl, read⟩

theorem exists_of_map {α β : Type} {x : Except JsonFault α} {f : α → β} {b : β}
    (read : x.map f = .ok b) : ∃ a, x = .ok a ∧ f a = b := by
  cases x with
  | error fault => cases read
  | ok a => exact ⟨a, rfl, Except.ok.inj read⟩

theorem eq_append_of_literal {word t rest : Text} {found j : Json}
    (read : ((literal word t).map fun rest => (found, rest)) = .ok (j, rest)) :
    t = word ++ rest ∧ found = j := by
  obtain ⟨behind, spelled, same⟩ := exists_of_map read
  obtain ⟨rfl, rfl⟩ := Prod.mk.inj same
  exact ⟨(literal_eq_ok_iff _ _ _).mp spelled, rfl⟩

/-- What is read without items is a spelling of that. -/
theorem spells_of_scalar {t rest : Text} {j : Json} (read : scalar true t = .ok (j, rest))
    (noArray : t.head? ≠ some '[') (noObject : t.head? ≠ some '\x7b') (depth : Nat) :
    ∃ body, t = body ++ rest ∧ Spells depth body j := by
  unfold scalar at read
  split at read
  · cases read
  · obtain ⟨rfl, rfl⟩ := eq_append_of_literal read
    exact ⟨"null".toList, rfl, .null depth⟩
  · obtain ⟨rfl, rfl⟩ := eq_append_of_literal read
    exact ⟨"true".toList, rfl, .bool depth true⟩
  · obtain ⟨rfl, rfl⟩ := eq_append_of_literal read
    exact ⟨"false".toList, rfl, .bool depth false⟩
  · obtain ⟨⟨s, behind⟩, string, same⟩ := exists_of_map read
    obtain ⟨rfl, rfl⟩ := Prod.mk.inj same
    obtain ⟨u, rfl, spells⟩ := spellsText_of_stringRest string
    exact ⟨'"' :: (u ++ ['"']), by simp, .str depth spells⟩
  · obtain ⟨body, rfl, keeps⟩ := keeps_number true _ _ _ read
    refine ⟨'-' :: body, rfl, .number depth (spellsNumber_of_scalar (.inl rfl) ?_)⟩
    have alone := keeps [] ends_nil
    rw [List.append_nil] at alone
    exact alone
  · exact absurd rfl noArray
  · exact absurd rfl noObject
  · rename_i c t _ _ _ _ _ _ _
    split at read
    · rename_i digit
      obtain ⟨body, whole, keeps⟩ := keeps_number false _ _ _ read
      have alone := keeps [] ends_nil
      rw [List.append_nil] at alone
      cases body with
      | nil => cases alone
      | cons d body =>
          obtain ⟨rfl, rfl⟩ := List.cons.inj whole
          refine ⟨c :: body, rfl, .number depth (spellsNumber_of_scalar (.inr digit) ?_)⟩
          rw [scalar_digit _ digit]
          exact alone
    · cases read

theorem Spells.trailing {depth : Nat} {t trail : Text} {j : Json} (spells : Spells depth t j)
    (trails : ∀ c ∈ trail, isSpace c = true) : Spells depth (t ++ trail) j :=
  .blanks (List.forall_mem_nil _) trails spells

theorem Spells.leading {depth : Nat} {lead t : Text} {j : Json}
    (leads : ∀ c ∈ lead, isSpace c = true) (spells : Spells depth t j) :
    Spells depth (lead ++ t) j := by
  have padded := Spells.blanks leads (List.forall_mem_nil _) spells
  rwa [List.append_nil] at padded

/-- With so much fuel, only what is spelled is read. -/
structure Sound (fuel : Nat) : Prop where
  value : ∀ {depth : Nat} {t rest : Text} {j : Json},
    value true fuel (depth + 1) t = .ok (j, rest) → ∃ body, t = body ++ rest ∧ Spells depth body j
  items : ∀ {depth : Nat} {t rest : Text} {js : List Json},
    moreItems true fuel (depth + 1) t = .ok (js, rest) →
      ∃ (lead : Text) (parts : List (Text × Json)), (∀ c ∈ lead, isSpace c = true) ∧
        (∀ p ∈ parts, Spells depth p.1 p.2) ∧ js = parts.map Prod.snd ∧
        t = lead ++ (parts.flatMap (',' :: ·.1) ++ ']' :: rest)
  member : ∀ {depth : Nat} {t rest : Text} {m : Text × Json},
    member true fuel (depth + 1) t = .ok (m, rest) → ∃ key gap body : Text,
      SpellsText key m.1 ∧ (∀ c ∈ gap, isSpace c = true) ∧ Spells depth body m.2 ∧
        t = '"' :: (key ++ '"' :: (gap ++ ':' :: (body ++ rest)))
  members : ∀ {depth : Nat} {t rest : Text} {ms : List (Text × Json)},
    moreMembers true fuel (depth + 1) t = .ok (ms, rest) →
      ∃ (lead : Text) (parts : List MemberText), (∀ c ∈ lead, isSpace c = true) ∧
        (∀ m ∈ parts, m.Spelled ∧ Spells depth m.body m.value) ∧
        ms = parts.map MemberText.member ∧
        t = lead ++ (parts.flatMap (',' :: ·.text) ++ '\x7d' :: rest)

section Fuel

variable {fuel depth : Nat} {t rest : Text}

theorem Sound.items_succ (sound : Sound fuel) {js : List Json}
    (read : moreItems true (fuel + 1) (depth + 1) t = .ok (js, rest)) :
    ∃ (lead : Text) (parts : List (Text × Json)), (∀ c ∈ lead, isSpace c = true) ∧
      (∀ p ∈ parts, Spells depth p.1 p.2) ∧ js = parts.map Prod.snd ∧
        t = lead ++ (parts.flatMap (',' :: ·.1) ++ ']' :: rest) := by
  obtain ⟨lead, leads, split⟩ := exists_spaces t
  rw [moreItems] at read
  split at read
  · rename_i behind close
    obtain ⟨rfl, rfl⟩ := Prod.mk.inj (Except.ok.inj read)
    rw [close] at split
    exact ⟨lead, [], leads, List.forall_mem_nil _, rfl, split⟩
  · rename_i behind comma
    obtain ⟨⟨item, behind'⟩, first, read⟩ := exists_of_bind read
    obtain ⟨⟨items, behind''⟩, others, read⟩ := exists_of_bind read
    obtain ⟨rfl, rfl⟩ := Prod.mk.inj (Except.ok.inj read)
    obtain ⟨body, rfl, spells⟩ := sound.value first
    obtain ⟨trail, parts, trails, each, rfl, rfl⟩ := sound.items others
    rw [comma] at split
    refine ⟨lead, (body ++ trail, item) :: parts, leads, ?_, rfl, by rw [split]; simp⟩
    rw [List.forall_mem_cons]
    exact ⟨spells.trailing trails, each⟩
  · cases read

theorem Sound.member_succ (sound : Sound fuel) {m : Text × Json}
    (read : Json.member true (fuel + 1) (depth + 1) t = .ok (m, rest)) :
    ∃ key gap body : Text, SpellsText key m.1 ∧ (∀ c ∈ gap, isSpace c = true) ∧
      Spells depth body m.2 ∧ t = '"' :: (key ++ '"' :: (gap ++ ':' :: (body ++ rest))) := by
  unfold Json.member at read
  split at read
  · obtain ⟨⟨name, behind⟩, string, after⟩ := exists_of_bind read
    obtain ⟨gap, gaps, split⟩ := exists_spaces behind
    dsimp only at after
    split at after
    · rename_i behind' colon
      obtain ⟨key, rfl, spells⟩ := spellsText_of_stringRest string
      obtain ⟨⟨found, behind''⟩, value, done⟩ := exists_of_bind after
      obtain ⟨rfl, rfl⟩ := Prod.mk.inj (Except.ok.inj done)
      obtain ⟨body, rfl, spelled⟩ := sound.value value
      rw [colon] at split
      exact ⟨key, gap, body, spells, gaps, spelled, by rw [split]⟩
    · cases after
  · cases read

theorem Sound.members_succ (sound : Sound fuel) {ms : List (Text × Json)}
    (read : moreMembers true (fuel + 1) (depth + 1) t = .ok (ms, rest)) :
    ∃ (lead : Text) (parts : List MemberText), (∀ c ∈ lead, isSpace c = true) ∧
      (∀ m ∈ parts, m.Spelled ∧ Spells depth m.body m.value) ∧
        ms = parts.map MemberText.member ∧
        t = lead ++ (parts.flatMap (',' :: ·.text) ++ '\x7d' :: rest) := by
  obtain ⟨lead, leads, split⟩ := exists_spaces t
  rw [moreMembers] at read
  split at read
  · rename_i behind close
    obtain ⟨rfl, rfl⟩ := Prod.mk.inj (Except.ok.inj read)
    rw [close] at split
    exact ⟨lead, [], leads, List.forall_mem_nil _, rfl, split⟩
  · rename_i behind comma
    obtain ⟨⟨m, behind'⟩, first, read⟩ := exists_of_bind read
    obtain ⟨⟨members, behind''⟩, others, read⟩ := exists_of_bind read
    obtain ⟨rfl, rfl⟩ := Prod.mk.inj (Except.ok.inj read)
    obtain ⟨front, fronts, start⟩ := exists_spaces behind
    obtain ⟨key, gap, body, spells, gaps, spelled, name⟩ := sound.member first
    obtain ⟨trail, parts, trails, each, rfl, rfl⟩ := sound.members others
    rw [comma, start, name] at split
    refine ⟨lead, ⟨front, key, gap, body ++ trail, m.1, m.2⟩ :: parts, leads, ?_, rfl, ?_⟩
    · rw [List.forall_mem_cons]
      exact ⟨⟨⟨fronts, spells, gaps⟩, spelled.trailing trails⟩, each⟩
    · rw [split]
      simp [MemberText.text]
  · cases read

theorem Sound.array (sound : Sound fuel) {j : Json} {inside : Text}
    (start : skipSpace t = '[' :: inside)
    (read : Json.value true (fuel + 1) (depth + 1) t = .ok (j, rest)) :
    ∃ body, skipSpace t = body ++ rest ∧ Spells depth body j := by
  simp only [Json.value, start] at read
  split at read
  · cases read
  · rename_i deep
    obtain ⟨depth, rfl⟩ : ∃ less, depth = less + 1 := ⟨depth - 1, by omega⟩
    obtain ⟨front, fronts, open_⟩ := exists_spaces inside
    split at read
    · cases read
    · rename_i behind close
      obtain ⟨rfl, rfl⟩ := Prod.mk.inj (Except.ok.inj read)
      rw [close] at open_
      exact ⟨'[' :: (front ++ [']']), by rw [start, open_]; simp, .emptyArr depth fronts⟩
    · obtain ⟨⟨item, behind⟩, first, read⟩ := exists_of_bind read
      obtain ⟨⟨items, behind'⟩, others, read⟩ := exists_of_bind read
      obtain ⟨rfl, rfl⟩ := Prod.mk.inj (Except.ok.inj read)
      obtain ⟨body, parted, spells⟩ := sound.value first
      obtain ⟨trail, parts, trails, each, rfl, rfl⟩ := sound.items others
      have all : ∀ p ∈ (front ++ body ++ trail, item) :: parts, Spells depth p.1 p.2 :=
        List.forall_mem_cons.mpr ⟨.blanks fronts trails spells, each⟩
      refine ⟨_, ?_, .arr all⟩
      rw [start, open_, parted]
      simp

theorem Sound.object (sound : Sound fuel) {j : Json} {inside : Text}
    (start : skipSpace t = '\x7b' :: inside)
    (read : Json.value true (fuel + 1) (depth + 1) t = .ok (j, rest)) :
    ∃ body, skipSpace t = body ++ rest ∧ Spells depth body j := by
  simp only [Json.value, start] at read
  split at read
  · cases read
  · rename_i deep
    obtain ⟨depth, rfl⟩ : ∃ less, depth = less + 1 := ⟨depth - 1, by omega⟩
    obtain ⟨front, fronts, open_⟩ := exists_spaces inside
    split at read
    · cases read
    · rename_i behind close
      obtain ⟨rfl, rfl⟩ := Prod.mk.inj (Except.ok.inj read)
      rw [close] at open_
      exact ⟨'\x7b' :: (front ++ ['\x7d']), by rw [start, open_]; simp, .emptyObj depth fronts⟩
    · obtain ⟨⟨m, behind⟩, first, read⟩ := exists_of_bind read
      obtain ⟨⟨members, behind'⟩, others, read⟩ := exists_of_bind read
      obtain ⟨rfl, rfl⟩ := Prod.mk.inj (Except.ok.inj read)
      obtain ⟨key, gap, body, spells, gaps, spelled, name⟩ := sound.member first
      obtain ⟨trail, parts, trails, each, rfl, rfl⟩ := sound.members others
      let m' : MemberText := ⟨front, key, gap, body ++ trail, m.1, m.2⟩
      have all : ∀ n ∈ m' :: parts, n.Spelled ∧ Spells depth n.body n.value :=
        List.forall_mem_cons.mpr ⟨⟨⟨fronts, spells, gaps⟩, spelled.trailing trails⟩, each⟩
      refine ⟨_, ?_, .obj (fun n member => (all n member).1) fun n member => (all n member).2⟩
      rw [start, open_, name]
      simp [m', MemberText.text]

theorem Sound.value_succ (sound : Sound fuel) {j : Json}
    (read : Json.value true (fuel + 1) (depth + 1) t = .ok (j, rest)) :
    ∃ body, t = body ++ rest ∧ Spells depth body j := by
  -- It is enough to tell what is read behind the blanks.
  suffices ∃ body, skipSpace t = body ++ rest ∧ Spells depth body j by
    obtain ⟨body, behind, spells⟩ := this
    obtain ⟨lead, leads, split⟩ := exists_spaces t
    exact ⟨lead ++ body, by rw [split, behind, List.append_assoc], spells.leading leads⟩
  have whole := read
  rw [Json.value] at read
  split at read
  · rename_i inside start
    exact sound.array start whole
  · rename_i inside start
    exact sound.object start whole
  · rename_i noArray noObject
    refine spells_of_scalar read ?_ ?_ depth
    · intro head
      obtain ⟨inside, start⟩ := List.head?_eq_some_iff.mp head
      exact noArray inside start
    · intro head
      obtain ⟨inside, start⟩ := List.head?_eq_some_iff.mp head
      exact noObject inside start

theorem sound (fuel : Nat) : Sound fuel := by
  induction fuel with
  | zero =>
      refine ⟨?_, ?_, ?_, ?_⟩
      all_goals
        intro depth t rest found read
        simp only [value, moreItems, member, moreMembers, reduceCtorEq] at read
  | succ fuel ih => exact ⟨ih.value_succ, ih.items_succ, ih.member_succ, ih.members_succ⟩

end Fuel

/-- **A text is read as a value just if it spells it**, with a nesting that the reader allows. -/
theorem parse_eq_ok_iff (t : Text) (j : Json) : parse t = .ok j ↔ Spells (depthLimit - 1) t j := by
  constructor
  · intro read
    obtain ⟨⟨found, rest⟩, value, read⟩ := exists_of_bind read
    obtain ⟨_, ends, read⟩ := exists_of_bind read
    obtain rfl := Except.ok.inj read
    obtain ⟨body, rfl, spells⟩ := (sound (fuelFor t)).value value
    refine spells.trailing ?_
    unfold atEnd at ends
    split at ends
    · rename_i none_
      rw [List.isEmpty_iff, skipSpace, List.dropWhile_eq_nil_iff] at none_
      exact none_
    · cases ends
  · intro spells
    have deep : depthLimit - 1 < depthLimit := by decide
    obtain ⟨trail, trails, read⟩ := spells.accepts deep (fuelFor t) [] (Nat.le_add_right _ 2)
      ends_nil
    have ends : skipSpace trail = [] := List.dropWhile_eq_nil_iff.mpr trails
    rw [List.append_nil, List.append_nil] at read
    simp only [parse, read, bind, Except.bind, atEnd, ends]
    rfl

end Beatsheet.Json

/-
# Beatsheet.Proofs.Line.Within — what is read off a line is made of its characters

Every text that is read off a line, whatever the line turns out to be, is cut out of it, but for its
blanks (`Reading.within_ofLine`). So what no character of the line is, none of these texts holds.
-/
import Beatsheet.Line.Kind
import Beatsheet.Proofs.Line.Capture

set_option autoImplicit false

namespace Beatsheet

open Text

/-! ## The texts of a reading -/

def Speech.texts (s : Speech) : List Text :=
  s.speaker :: s.text :: s.id :: (s.qualifier.toList ++ s.direction.toList ++ s.tags)

def Action.texts (a : Action) : List Text :=
  a.text :: a.id :: a.tags

def Shape.texts : Shape → List Text
  | .speech s => s.texts
  | .action a => a.texts

def Tagged.texts (t : Tagged) : List Text :=
  t.id :: t.tags

def Prose.texts (ways : Prose) : List Text :=
  ways.label.toList ++ ways.shape.elim [] Shape.texts ++ ways.tagged.elim [] Tagged.texts

def Turn.texts : Turn → List Text
  | .choice text => [text]
  | _ => []

def Role.texts : Role → List Text
  | .clause => []
  | .knot id => [id]
  | .stitch id => [id]
  | .comment text => [text]
  | .prose ways => ways.texts

def Kind.texts : Kind → List Text
  | .tags tokens => tokens
  | .content turn role => turn.elim [] Turn.texts ++ role.texts
  | _ => []

def Reading.texts (r : Reading) : List Text :=
  r.body :: (r.comment.toList ++ r.kind.texts)

/-! ## Cuts -/

namespace Text

theorem word_subset (t : Text) : word t ⊆ t :=
  (List.takeWhile_prefix isWordChar).subset

theorem subset_of_after? {start t rest : Text} (found : after? start t = some rest) : rest ⊆ t := by
  rw [eq_append_of_after? found]
  exact List.subset_append_right start rest

theorem subset_of_mem_splitWhere {p : Char → Bool} {t piece : Text}
    (member : piece ∈ splitWhere p t) : piece ⊆ t :=
  fun _ => mem_of_mem_splitWhere member

/-- A text that is left out when empty is made of the same characters. -/
theorem mem_toList_nonEmpty? {t u : Text} (member : u ∈ (nonEmpty? t).toList) : u = t := by
  unfold nonEmpty? at member
  split at member
  · cases member
  · exact List.mem_singleton.mp member

end Text

namespace Tag

theorem subset_of_id? {token name : Text} (found : id? token = some name) : name ⊆ token := by
  obtain ⟨-, rfl⟩ := id?_eq_some_iff.mp found
  exact List.subset_append_right idMark name

theorem within_takeId {line : Text} {tokens : List Text} (within : ∀ token ∈ tokens, token ⊆ line) :
    (takeId tokens).1.getD [] ⊆ line ∧ ∀ token ∈ (takeId tokens).2, token ⊆ line := by
  have declares := declares_takeId tokens
  generalize (takeId tokens).1.getD [] = name, (takeId tokens).2 = others at declares
  cases declares with
  | none => exact ⟨List.nil_subset line, within⟩
  | @some before after name letters first =>
      rw [List.forall_mem_append, List.forall_mem_cons] at within
      obtain ⟨front, declaring, behind⟩ := within
      refine ⟨List.Subset.trans (List.subset_append_right idMark name) declaring, ?_⟩
      exact List.forall_mem_append.mpr ⟨front, behind⟩

theorem within_groups? {line : Text} {tokens : List Text} (found : groups? line = some tokens) :
    ∀ token ∈ tokens, token ⊆ line := by
  unfold groups? at found
  split at found
  · rename_i rest
    rw [Option.ite_none_left_eq_some, Option.some.injEq] at found
    obtain ⟨-, rfl⟩ := found
    refine List.forall_mem_map.mpr fun piece member => ?_
    have behind : piece ⊆ '#' :: rest :=
      List.Subset.trans (subset_of_mem_splitWhere member) (List.subset_cons_self '#' rest)
    exact List.Subset.trans (trim_subset piece) behind
  · cases found

theorem within_line? {line : Text} {tokens : List Text} (found : line? line = some tokens) :
    ∀ token ∈ tokens, token ⊆ line :=
  fun token member => List.Subset.trans (within_groups? found token member) (trim_subset line)

theorem within_ofRun (run : Text) : ∀ token ∈ ofRun run, token ⊆ run := by
  unfold ofRun
  split
  · refine List.forall_mem_map.mpr fun word member => ?_
    have inRun := subset_of_mem_splitWhere (List.mem_filter.mp member).1
    exact List.Subset.trans (List.drop_subset 1 word) inRun
  · exact List.forall_mem_nil _

theorem within_read (run : Text) :
    (read run).1 ⊆ run ∧ ∀ token ∈ (read run).2, token ⊆ run :=
  within_takeId (within_ofRun run)

end Tag

/-! ## The parts of a line -/

section Parts

variable {line : Text}

theorem Tagged.within_ofLine? {t : Tagged} (found : ofLine? line = some t) :
    ∀ u ∈ t.texts, u ⊆ line := by
  obtain ⟨tokens, groups, found⟩ := Option.bind_eq_some_iff.mp found
  have marked : before ']' (line.dropWhile (· != '#')) ⊆ line :=
    List.Subset.trans (before_subset ']' _) (List.dropWhile_suffix (· != '#')).subset
  have within : ∀ token ∈ tokens, token ⊆ line := fun token member =>
    List.Subset.trans (Tag.within_groups? groups token member)
      (List.Subset.trans (prefix_trimEnd _).subset marked)
  split at found
  · rename_i name declared
    obtain rfl := Option.some.inj found
    have member : name ∈ tokens.filterMap Tag.id? := declared ▸ List.mem_cons_self
    obtain ⟨token, inTokens, declares⟩ := List.mem_filterMap.mp member
    refine List.forall_mem_cons.mpr ⟨?_, (Tag.within_takeId within).2⟩
    exact List.Subset.trans (Tag.subset_of_id? declares) (within token inTokens)
  · cases found

namespace Line

theorem subset_of_comment? {text : Text} (found : comment? line = some text) : text ⊆ line := by
  obtain ⟨rest, start, rfl⟩ := Option.map_eq_some_iff.mp found
  exact List.Subset.trans (trim_subset rest) (subset_of_after? start)

theorem within_splitComment (line : Text) :
    (splitComment line).1 ⊆ line ∧ ∀ text ∈ (splitComment line).2, text ⊆ line := by
  unfold splitComment
  split
  · exact ⟨List.Subset.refl line, by simp⟩
  · split
    · rename_i head tail cut
      rw [eq_of_cutLast? cut]
      constructor
      · refine List.Subset.trans (trim_subset head) ?_
        rw [List.append_assoc]
        exact List.subset_append_left head _
      · rintro text ⟨⟩
        exact List.Subset.trans (trim_subset tail) (List.subset_append_right _ tail)
    · exact ⟨List.Subset.refl line, by simp⟩

theorem subset_of_name? {t name : Text} (found : name? t = some name) : name ⊆ t := by
  rw [name?, Option.ite_none_left_eq_some, Option.some.injEq] at found
  exact found.2 ▸ word_subset t

theorem subset_of_knot? {id : Text} (found : knot? line = some id) : id ⊆ line := by
  unfold knot? at found
  split at found
  · rename_i rest start
    have within : '=' :: '=' :: rest ⊆ line := start ▸ trimStart_subset line
    have behind : rest ⊆ line :=
      List.Subset.trans (List.subset_cons_of_subset '=' (List.subset_cons_self '=' rest)) within
    have marks := List.Subset.trans (List.dropWhile_suffix (· == '=')).subset behind
    exact List.Subset.trans (subset_of_name? found) (List.Subset.trans (trimStart_subset _) marks)
  · cases found

theorem subset_of_stitch? {id : Text} (found : stitch? line = some id) : id ⊆ line := by
  unfold stitch? at found
  split at found
  · rename_i rest start
    have within : '=' :: rest ⊆ line := start ▸ trimStart_subset line
    have behind : rest ⊆ line := List.Subset.trans (List.subset_cons_self '=' rest) within
    exact List.Subset.trans (subset_of_name? found)
      (List.Subset.trans (trimStart_subset rest) behind)
  · cases found

theorem subset_of_labelRest? {inside : Bool} {t label : Text}
    (found : labelRest? inside t = some label) : label ⊆ t := by
  induction t generalizing inside label with
  | nil => cases inside <;> cases found
  | cons c rest ih =>
      have later : ∀ {inside label}, (labelRest? inside rest).map (c :: ·) = some label →
          label ⊆ c :: rest := by
        intro inside label put
        obtain ⟨more, behind, rfl⟩ := Option.map_eq_some_iff.mp put
        exact List.cons_subset_cons c (ih behind)
      cases inside with
      | true => exact later found
      | false =>
          unfold labelRest? at found
          split at found
          · obtain rfl := Option.some.inj found
            exact List.nil_subset _
          · split at found
            · cases found
            · exact later found

theorem subset_of_label? {label : Text} (found : label? line = some label) : label ⊆ line := by
  unfold label? at found
  split at found
  · cases found
  · rename_i c rest
    split at found
    · obtain ⟨text, start, found⟩ := Option.bind_eq_some_iff.mp found
      rw [Option.ite_none_left_eq_some, Option.some.injEq] at found
      obtain ⟨more, behind, rfl⟩ := Option.map_eq_some_iff.mp start
      rw [← found.2]
      exact List.cons_subset_cons c (subset_of_labelRest? behind)
    · cases found

theorem untagged_subset (t : Text) : untagged t ⊆ t :=
  List.Subset.trans (trim_subset _) (before_subset '#' t)

theorem subset_of_choice? {text : Text} (found : choice? line = some text) : text ⊆ line := by
  obtain ⟨rest, start, found⟩ := Option.bind_eq_some_iff.mp found
  have within : rest ⊆ line := by
    unfold afterBullets? at start
    split at start
    · cases start
    · rename_i c tail trimmed
      rw [Option.ite_none_right_eq_some, Option.some.injEq] at start
      have tailWithin : c :: tail ⊆ line := trimmed ▸ trimStart_subset line
      rw [← start.2]
      exact List.Subset.trans (List.dropWhile_suffix _).subset
        (List.Subset.trans (List.subset_cons_self c tail) tailWithin)
  split at found
  · rename_i inside bracket
    obtain rfl := Option.some.inj found
    unfold bracketed? at bracket
    split at bracket
    · rename_i behind
      split at bracket
      · cases bracket
      · rw [Option.ite_none_right_eq_some, Option.some.injEq] at bracket
        rw [← bracket.2]
        have inside : behind ⊆ line :=
          List.Subset.trans (List.subset_cons_self '[' behind) within
        exact List.Subset.trans (untagged_subset _)
          (List.Subset.trans (before_subset ']' behind) inside)
    · cases bracket
  · rw [Option.ite_none_left_eq_some, Option.some.injEq] at found
    rw [← found.2]
    exact List.Subset.trans (untagged_subset rest) within

/-- What an aside holds, and what follows it. -/
theorem within_of_mem_asides {t tail : Text} {aside : Option Text}
    (member : (aside, tail) ∈ asides t) : (∀ text ∈ aside.toList, text ⊆ t) ∧ tail ⊆ t := by
  refine ⟨fun text inAside => ?_, (suffix_of_mem_asides member).subset⟩
  rcases mem_asides member with ⟨rfl, -⟩ | ⟨inside, rfl, rfl⟩
  · cases inAside
  · rw [mem_toList_nonEmpty? inAside]
    refine List.Subset.trans (trim_subset inside) ?_
    exact List.Subset.trans (List.subset_cons_self '(' inside) (List.subset_append_left _ _)

end Line

theorem Speech.within_capture? {c : Capture} (found : capture? line = some c) :
    ∀ t ∈ c.speaker :: (c.qualifier.toList ++ c.direction.toList), t ⊆ line := by
  have dashless := (Line.suffix_afterDash line).subset
  unfold capture? at found
  dsimp only at found
  split at found
  · cases found
  · obtain ⟨⟨qualifier, tail⟩, aside, found⟩ := List.exists_of_findSome?_eq_some found
    dsimp only at found
    split at found
    · rename_i rest colon
      obtain ⟨⟨direction, behind⟩, second, found⟩ := List.exists_of_findSome?_eq_some found
      obtain ⟨⟨text, run⟩, -, rfl⟩ := Option.map_eq_some_iff.mp found
      have name : (Line.afterDash line).takeWhile Line.isSpeakerChar ⊆ line :=
        List.Subset.trans (List.takeWhile_prefix _).subset dashless
      have front : trimStart ((Line.afterDash line).dropWhile Line.isSpeakerChar) ⊆ line :=
        List.Subset.trans (trimStart_subset _)
          (List.Subset.trans (List.dropWhile_suffix _).subset dashless)
      obtain ⟨qualifiers, tailWithin⟩ := Line.within_of_mem_asides aside
      have atColon : ':' :: rest ⊆ line :=
        colon ▸ List.Subset.trans (trimStart_subset tail) (List.Subset.trans tailWithin front)
      have restWithin := List.Subset.trans (List.subset_cons_self ':' rest) atColon
      obtain ⟨directions, -⟩ := Line.within_of_mem_asides second
      refine List.forall_mem_cons.mpr ⟨name, List.forall_mem_append.mpr ⟨?_, ?_⟩⟩
      · exact fun t member => List.Subset.trans (qualifiers t member) front
      · exact fun t member => List.Subset.trans (directions t member)
          (List.Subset.trans (trimStart_subset rest) restWithin)
    · cases found

theorem Speech.within_ofLine? {s : Speech} (found : ofLine? line = some s) :
    ∀ t ∈ s.texts, t ⊆ line := by
  rw [ofLine?_eq] at found
  obtain ⟨c, captured, rfl⟩ := Option.map_eq_some_iff.mp found
  have behind := (suffix_of_capture? captured).1.subset
  have text : c.text ⊆ line := List.Subset.trans (List.subset_append_left c.text c.run) behind
  have run : c.run ⊆ line := List.Subset.trans (List.subset_append_right c.text c.run) behind
  obtain ⟨id, tags⟩ := Tag.within_read c.run
  obtain ⟨speaker, asides⟩ := List.forall_mem_cons.mp (within_capture? captured)
  simp only [texts, List.forall_mem_cons]
  refine ⟨speaker, text, List.Subset.trans id run, List.forall_mem_append.mpr ⟨asides, ?_⟩⟩
  exact fun t member => List.Subset.trans (tags t member) run

theorem Action.within_ofLine? {a : Action} (found : ofLine? line = some a) :
    ∀ t ∈ a.texts, t ⊆ line := by
  rw [ofLine?_eq] at found
  obtain ⟨⟨text, run⟩, captured, rfl⟩ := Option.map_eq_some_iff.mp found
  have behind := (suffix_of_capture? captured).1.subset
  have textWithin : text ⊆ line := List.Subset.trans (List.subset_append_left text run) behind
  have runWithin : run ⊆ line := List.Subset.trans (List.subset_append_right text run) behind
  obtain ⟨id, tags⟩ := Tag.within_read run
  simp only [texts, List.forall_mem_cons]
  refine ⟨textWithin, List.Subset.trans id runWithin, ?_⟩
  exact fun t member => List.Subset.trans (tags t member) runWithin

theorem Shape.within_ofLine? {shape : Shape} (found : ofLine? line = some shape) :
    ∀ t ∈ shape.texts, t ⊆ line := by
  unfold ofLine? at found
  split at found
  · rename_i speech said
    obtain rfl := Option.some.inj found
    exact Speech.within_ofLine? said
  · obtain ⟨action, done, rfl⟩ := Option.map_eq_some_iff.mp found
    exact Action.within_ofLine? done

end Parts

/-! ## Whole lines -/

/-- What is within a line for every value of an option is so for the option. -/
theorem within_elim {α : Type} {line : Text} {texts : α → List Text} {found : Option α}
    (each : ∀ a, found = some a → ∀ t ∈ texts a, t ⊆ line) :
    ∀ t ∈ found.elim [] texts, t ⊆ line := by
  cases found with
  | none => exact List.forall_mem_nil _
  | some a => exact each a rfl

theorem Prose.within_ofLine (straying : Bool) (line : Text) :
    ∀ t ∈ (ofLine straying line).texts, t ⊆ line := by
  refine List.forall_mem_append.mpr ⟨List.forall_mem_append.mpr ⟨?_, ?_⟩, ?_⟩
  · exact fun t member => Line.subset_of_label? (Option.mem_toList.mp member)
  · exact within_elim fun _ => Shape.within_ofLine?
  · exact within_elim fun _ => Tagged.within_ofLine?

theorem Turn.within_ofLine? {line : Text} {turn : Turn} (found : ofLine? line = some turn) :
    ∀ t ∈ turn.texts, t ⊆ line := by
  cases turn with
  | choice text =>
      have choice : Line.choice? line = some text := by
        unfold ofLine? at found
        grind
      exact List.forall_mem_singleton.mpr (Line.subset_of_choice? choice)
  | opening group | closing | speech | gather | other => exact List.forall_mem_nil _

theorem Role.within_ofLine (line : Text) : ∀ t ∈ (ofLine line).texts, t ⊆ line := by
  unfold ofLine
  split
  · split
    · exact List.forall_mem_nil _
    · exact Prose.within_ofLine true line
  · split
    · rename_i id knot
      exact List.forall_mem_singleton.mpr (Line.subset_of_knot? knot)
    · split
      · rename_i id stitch
        exact List.forall_mem_singleton.mpr (Line.subset_of_stitch? stitch)
      · split
        · rename_i text comment
          exact List.forall_mem_singleton.mpr (Line.subset_of_comment? comment)
        · exact Prose.within_ofLine false line

theorem Kind.within_ofLine (line : Text) : ∀ t ∈ (ofLine line).texts, t ⊆ line := by
  unfold ofLine
  split
  · exact List.forall_mem_nil _
  · split
    · rename_i tokens found
      exact Tag.within_line? found
    · split
      · exact List.forall_mem_nil _
      · refine List.forall_mem_append.mpr ⟨?_, Role.within_ofLine line⟩
        exact within_elim fun _ => Turn.within_ofLine?

/-- **Nothing is read off a line that is not in it.** -/
theorem Reading.within_ofLine (line : Text) : ∀ t ∈ (ofLine line).texts, t ⊆ line := by
  have trimmed := trim_subset line
  obtain ⟨body, comment⟩ := Line.within_splitComment (trim line)
  have bodyWithin := List.Subset.trans body trimmed
  refine List.forall_mem_cons.mpr ⟨bodyWithin, List.forall_mem_append.mpr ⟨?_, ?_⟩⟩
  · exact fun t member => List.Subset.trans (comment t (Option.mem_toList.mp member)) trimmed
  · exact fun t member => List.Subset.trans (Kind.within_ofLine _ t member) bodyWithin

end Beatsheet

/-
# Beatsheet.Proofs.Extract.Balance — balanced braces

A line opens one level or closes one, however many braces it holds. So braces that balance in the
text need not balance line by line: two levels that are closed on one line leave one open
(`not_always_clear`). What is open behind a script can be told from its lines, and nothing is just
if in none of its tails more lines open a level than close one. Where the braces balance and no line
holds two closing braces too many, that is so (`clear_upTo`).
-/
import Beatsheet.Proofs.Draft.Clear
import Mathlib.Data.List.Infix

set_option autoImplicit false

namespace Beatsheet

/-! ## The braces of a line -/

/-- Only a line whose braces do not balance is a brace turn. -/
theorem Turn.ofLine?_of_balanced {line : Text} (balanced : Brace.ofLine? line = none) :
    (∀ group, Turn.ofLine? line ≠ some (.opening group)) ∧ Turn.ofLine? line ≠ some .closing := by
  unfold Turn.ofLine?
  rw [balanced]
  dsimp only
  split
  · simp
  · split
    · simp
    · split
      · simp
      · split <;> simp

namespace SourceLine

/-- The braces of the line that count: those of content, without the comment at its end. -/
def braces (line : SourceLine) : Text :=
  match line.kind with
  | .content _ _ => (Reading.ofLine line.text).body.filter fun c => c == '{' || c == '}'
  | _ => []

def opens (line : SourceLine) : Bool :=
  line.braces.count '}' < line.braces.count '{'

def closes (line : SourceLine) : Bool :=
  line.braces.count '{' < line.braces.count '}'

/-- What a line does to the levels is told by its braces. -/
theorem turn?_cases (line : SourceLine) :
    (line.opens = true ∧ line.closes = false ∧ ∃ group, line.turn? = some (.opening group)) ∨
      (line.opens = false ∧ line.closes = true ∧ line.turn? = some .closing) ∨
      (line.opens = false ∧ line.closes = false ∧
        (∀ group, line.turn? ≠ some (.opening group)) ∧ line.turn? ≠ some .closing) := by
  cases kind : line.kind with
  | blank | statement | tags tokens => simp [opens, closes, braces, turn?, kind]
  | content turn role =>
      have told : line.turn? = Turn.ofLine? (Reading.ofLine line.text).body := by
        rw [turn?, kind, ← (content_eq kind).1]
      have braces : line.braces = (Reading.ofLine line.text).body.filter
          fun c => c == '{' || c == '}' := by rw [braces, kind]
      rw [opens, closes, told, braces, List.count_filter (by decide), List.count_filter (by decide)]
      generalize (Reading.ofLine line.text).body = body
      rcases Nat.lt_trichotomy (body.count '{') (body.count '}') with closing | even | opening
      · have brace : Brace.ofLine? body = some .closing := by
          rw [Brace.ofLine?, if_neg (by omega), if_pos closing]
        refine .inr (.inl ⟨?_, ?_, ?_⟩)
        · exact decide_eq_false (by omega)
        · exact decide_eq_true closing
        · rw [Turn.ofLine?, brace]
      · have brace : Brace.ofLine? body = none := by
          rw [Brace.ofLine?, if_neg (by omega), if_neg (by omega)]
        refine .inr (.inr ⟨?_, ?_, Turn.ofLine?_of_balanced brace⟩)
        · exact decide_eq_false (by omega)
        · exact decide_eq_false (by omega)
      · have brace : Brace.ofLine? body = some .opening := by
          rw [Brace.ofLine?, if_pos opening]
        refine .inl ⟨?_, ?_, Line.opensGroup body, ?_⟩
        · exact decide_eq_true opening
        · exact decide_eq_false (by omega)
        · rw [Turn.ofLine?, brace]

end SourceLine

/-! ## How deep the braces are -/

namespace Draft

variable {d e : Draft}

/-- A line changes the depth by one at most. -/
theorem depth_step (d : Draft) (line : SourceLine) :
    (d.step line).levels.depth =
      if line.opens then d.levels.depth + 1
      else if line.closes then d.levels.depth - 1
      else d.levels.depth := by
  rw [levels_step, levels_turned]
  rcases line.turn?_cases with ⟨opens, -, group, turn⟩ | ⟨opens, closes, turn⟩ |
    ⟨opens, closes, opening, closing⟩
  · simp [opens, turn, Levels.depth_push]
  · simp [opens, closes, turn, Levels.depth_pop]
  · split
    · rename_i turn
      exact absurd turn (opening _)
    · rename_i turn
      exact absurd turn closing
    · simp [opens, closes]

/-- The depth is the greatest number of levels that some tail of the script opens more than it
closes. -/
theorem depth_upTo_le_iff (lines : List SourceLine) (k : Nat) :
    (upTo lines).levels.depth ≤ k ↔
      ∀ tail, tail <:+ lines →
        tail.countP SourceLine.opens ≤ tail.countP SourceLine.closes + k := by
  induction lines using List.reverseRecOn generalizing k with
  | nil =>
      have flat : (upTo []).levels.depth = 0 := rfl
      simp [flat]
  | append_singleton rest line ih =>
      have tails : (∀ tail, tail <:+ rest ++ [line] →
          tail.countP SourceLine.opens ≤ tail.countP SourceLine.closes + k) ↔
          ∀ tail, tail <:+ rest →
            (tail ++ [line]).countP SourceLine.opens ≤
              (tail ++ [line]).countP SourceLine.closes + k := by
        constructor
        · intro all tail isTail
          exact all _ (List.suffix_concat_iff.mpr (.inr ⟨tail, rfl, isTail⟩))
        · intro all tail isTail
          rcases List.suffix_concat_iff.mp isTail with rfl | ⟨front, rfl, inRest⟩
          · simp
          · exact all front inRest
      rw [tails, upTo_concat, depth_step]
      simp only [List.countP_append, List.countP_singleton]
      rcases line.turn?_cases with ⟨opens, closes, -⟩ | ⟨opens, closes, -⟩ | ⟨opens, closes, -⟩
      · simp only [opens, closes, if_true, Bool.false_eq_true, if_false, Nat.add_zero]
        cases k with
        | zero =>
            -- The line by itself is a tail that opens a level and closes none.
            have alone : ¬∀ tail, tail <:+ rest → tail.countP SourceLine.opens + 1 ≤
                tail.countP SourceLine.closes + 0 := by
              intro all
              exact absurd (all [] List.nil_suffix) (by simp)
            exact ⟨fun deep => absurd deep (by omega), fun all => absurd all alone⟩
        | succ k =>
            rw [Nat.add_le_add_iff_right, ih k]
            refine forall₂_congr fun tail _ => ?_
            omega
      · simp only [opens, closes, if_true, Bool.false_eq_true, if_false, Nat.add_zero]
        rw [Nat.sub_le_iff_le_add, ih (k + 1)]
        refine forall₂_congr fun tail _ => ?_
        omega
      · simp only [opens, closes, Bool.false_eq_true, if_false, Nat.add_zero]
        exact ih k

end Draft

/-! ## Balance -/

/-- There are as many opening as closing braces, and nowhere have more been closed than opened. -/
def Balanced (braces : Text) : Prop :=
  braces.count '{' = braces.count '}' ∧ ∀ start ∈ braces.inits, start.count '}' ≤ start.count '{'

instance (braces : Text) : Decidable (Balanced braces) :=
  inferInstanceAs (Decidable (_ ∧ _))

/-- No tail of balanced braces opens more than it closes. -/
theorem Balanced.tail {front behind : Text} (balanced : Balanced (front ++ behind)) :
    behind.count '{' ≤ behind.count '}' := by
  have whole := balanced.1
  have start := balanced.2 front ((List.mem_inits _ _).mpr (List.prefix_append _ _))
  rw [List.count_append, List.count_append] at whole
  omega

/-- Where no line closes two levels at once, the lines that open count for one brace each at least
and those that close for just one. -/
theorem countP_opens_le {lines : List SourceLine}
    (single : ∀ line ∈ lines, line.braces.count '}' ≤ line.braces.count '{' + 1) :
    lines.countP SourceLine.opens + (lines.flatMap SourceLine.braces).count '}' ≤
      lines.countP SourceLine.closes + (lines.flatMap SourceLine.braces).count '{' := by
  induction lines with
  | nil => simp
  | cons line rest ih =>
      have others := ih fun line member => single line (List.mem_cons_of_mem _ member)
      have this := single line List.mem_cons_self
      rw [List.countP_cons, List.countP_cons, List.flatMap_cons, List.count_append,
        List.count_append]
      simp only [SourceLine.opens, SourceLine.closes, decide_eq_true_eq] at others ⊢
      split <;> split <;> omega

/-- **Nothing is open behind a script just if no tail of it has more lines that open a level than
lines that close one.** So it is where the braces balance and no line has more than one closing
brace too many. -/
theorem clear_upTo (lines : List SourceLine) :
    ((Draft.upTo lines).Clear ↔
        ∀ tail, tail <:+ lines →
          tail.countP SourceLine.opens ≤ tail.countP SourceLine.closes) ∧
      (Balanced (lines.flatMap SourceLine.braces) →
        (∀ line ∈ lines, line.braces.count '}' ≤ line.braces.count '{' + 1) →
        (Draft.upTo lines).Clear) := by
  have decides : (Draft.upTo lines).Clear ↔ ∀ tail, tail <:+ lines →
      tail.countP SourceLine.opens ≤ tail.countP SourceLine.closes := by
    rw [Draft.clear_upTo_iff_depth, ← Nat.le_zero, Draft.depth_upTo_le_iff]
    simp only [Nat.add_zero]
  refine ⟨decides, fun balanced single => decides.mpr fun tail isTail => ?_⟩
  obtain ⟨front, rfl⟩ := isTail
  rw [List.flatMap_append] at balanced
  have lines := countP_opens_le fun line member => single line (List.mem_append_right _ member)
  have braces := balanced.tail
  omega

/-! ## Poles -/

/-- Levels opened one by one and several at once, a group among them, each closed by itself. -/
def closedSingly : List SourceLine :=
  SourceLine.number "t.ink".toList 1 <|
    ["=== K", "// why", "\x7b\x7b x", "a \x7b b \x7d c", "\x7b shuffle:", "- \x7b y \x7d", "\x7d",
      "\x7d", "\x7d"].map String.toList

theorem clear_upTo_of_closedSingly :
    Balanced (closedSingly.flatMap SourceLine.braces) ∧
      (∀ line ∈ closedSingly, line.braces.count '}' ≤ line.braces.count '{' + 1) ∧
      (Draft.upTo closedSingly).Clear := by
  have balanced : Balanced (closedSingly.flatMap SourceLine.braces) := by decide +kernel
  have single : ∀ line ∈ closedSingly,
      line.braces.count '}' ≤ line.braces.count '{' + 1 := by decide +kernel
  exact ⟨balanced, single, (clear_upTo closedSingly).2 balanced single⟩

/-- Two levels that are closed on one line. -/
def closedTogether : List SourceLine :=
  SourceLine.number "t.ink".toList 1 <|
    ["=== K", "// why", "\x7b x", "\x7b y", "\x7d\x7d"].map String.toList

/-- Balanced braces may leave a level open, and its comments with it. -/
theorem not_always_clear :
    ¬∀ lines : List SourceLine, Balanced (lines.flatMap SourceLine.braces) →
      (Draft.upTo lines).Clear := by
  intro always
  have clear := always closedTogether (by decide +kernel)
  have deep : (Draft.upTo closedTogether).levels.depth = 1 := by decide +kernel
  rw [clear.depth] at deep
  cases deep

end Beatsheet

import Mathlib.Data.List.Induction
import Mathlib.Order.Basic
import SeriesScript.Source.Position

/-!
# Positions in a text, and the text of a span

The position after a text that was read character by character is that of its end: as many lines as
it has newlines, and as many columns as it has characters behind the last of them.

Positions are ordered by line, then by column, and reading a text goes forward in this order. So the
characters of a text that stand in a span are the ones read between its two ends.
-/
namespace SeriesScript

namespace Position

/-! ## Offsets -/

/-- The position of an offset in a text: its line by the newlines before it, its column by the
characters since the last of these. -/
def ofOffset (text : List Char) (offset : Nat) : Position :=
  let before := text.take offset
  ⟨before.count '\n' + 1, (before.reverse.takeWhile (· != '\n')).length⟩

theorem after_start (text : List Char) :
    start.after text =
      ⟨text.count '\n' + 1, (text.reverse.takeWhile (· != '\n')).length⟩ := by
  induction text using List.reverseRecOn with
  | nil => rfl
  | append_singleton text c ih =>
    rw [after_append, ih, after_cons, after_nil, advance]
    by_cases newline : c = '\n'
    · simp [newline]
    · simp [newline]

theorem ofOffset_append (before rest : List Char) :
    ofOffset (before ++ rest) before.length = start.after before := by
  rw [ofOffset, List.take_left, after_start]

/-! ## Order -/

variable {p q : Position}

instance : PartialOrder Position where
  le p q := p.atMost q = true
  le_refl p := by simp [atMost]
  le_trans p q r := by
    simp only [atMost, Bool.or_eq_true, Bool.and_eq_true, decide_eq_true_eq, beq_iff_eq]
    omega
  le_antisymm p q := by
    simp only [atMost, Bool.or_eq_true, Bool.and_eq_true, decide_eq_true_eq, beq_iff_eq]
    intro h h'
    have line : p.line = q.line := by omega
    have column : p.column = q.column := by omega
    cases p
    cases q
    simp_all

theorem le_iff : p ≤ q ↔ p.line < q.line ∨ p.line = q.line ∧ p.column ≤ q.column := by
  have atMost : p ≤ q ↔ p.atMost q = true := Iff.rfl
  rw [atMost, Position.atMost]
  simp

theorem lt_iff : p < q ↔ p.line < q.line ∨ p.line = q.line ∧ p.column < q.column := by
  rw [lt_iff_le_not_ge, le_iff, le_iff]
  omega

theorem not_le : ¬ p ≤ q ↔ q < p := by
  rw [le_iff, lt_iff]
  omega

theorem earlier_of_le (h : p ≤ q) : p.earlier q = p := if_pos h

theorem later_of_le (h : p ≤ q) : p.later q = q := if_pos h

theorem lt_advance (p : Position) (c : Char) : p < p.advance c := by
  rw [advance, lt_iff]
  split
  · exact .inl (Nat.lt_succ_self _)
  · exact .inr ⟨rfl, Nat.lt_succ_self _⟩

theorem le_after (p : Position) (text : List Char) : p ≤ p.after text := by
  induction text generalizing p with
  | nil => exact le_rfl
  | cons c text ih => exact (p.lt_advance c).le.trans (ih (p.advance c))

theorem lt_after (p : Position) {text : List Char} (h : text ≠ []) : p < p.after text := by
  cases text with
  | nil => exact absurd rfl h
  | cons c text => exact (p.lt_advance c).trans_le ((p.advance c).le_after text)

theorem line_le_of_le (h : p ≤ q) : p.line ≤ q.line := by
  rw [le_iff] at h
  omega

theorem line_after (p : Position) (text : List Char) :
    (p.after text).line = p.line + text.count '\n' := by
  induction text generalizing p with
  | nil => rfl
  | cons c text ih =>
    rw [after_cons, ih, advance, List.count_cons]
    by_cases newline : c = '\n'
    · simp only [newline, if_true, beq_self_eq_true]
      omega
    · simp [newline]

end Position

namespace Span

def Filled (s : Span) : Prop := s.start < s.stop

def Within (a s : Span) : Prop := s.start ≤ a.start ∧ a.stop ≤ s.stop

def Precedes (a b : Span) : Prop := a.stop ≤ b.start

def holds (s : Span) (p : Position) : Bool := s.start.atMost p && !s.stop.atMost p

/-- The characters in a span, of a text that starts at a position. -/
def charsFrom (s : Span) : Position → List Char → List Char
  | _, [] => []
  | p, c :: text =>
    if s.holds p then c :: s.charsFrom (p.advance c) text else s.charsFrom (p.advance c) text

def chars (s : Span) (source : String) : List Char := s.charsFrom .start source.toList

variable {s a b : Span} {p : Position} {text before : List Char}

theorem holds_iff : s.holds p = true ↔ s.start ≤ p ∧ p < s.stop := by
  rw [holds, Bool.and_eq_true, Bool.not_eq_true', ← Bool.not_eq_true]
  exact and_congr_right fun _ => Position.not_le

theorem charsFrom_append (s : Span) (p : Position) (text rest : List Char) :
    s.charsFrom p (text ++ rest) = s.charsFrom p text ++ s.charsFrom (p.after text) rest := by
  induction text generalizing p with
  | nil => rfl
  | cons c text ih =>
    rw [List.cons_append, charsFrom, charsFrom, ih, Position.after_cons]
    split <;> rfl

theorem charsFrom_before (h : p.after text ≤ s.start) : s.charsFrom p text = [] := by
  induction text generalizing p with
  | nil => rfl
  | cons c text ih =>
    have early : p < s.start := (p.lt_after (List.cons_ne_nil c text)).trans_le h
    have outside : ¬ s.holds p = true := fun inside => (holds_iff.mp inside).1.not_gt early
    rw [charsFrom, if_neg outside, ih h]

theorem charsFrom_behind (h : s.stop ≤ p) : s.charsFrom p text = [] := by
  induction text generalizing p with
  | nil => rfl
  | cons c text ih =>
    have outside : ¬ s.holds p = true := fun inside => (holds_iff.mp inside).2.not_ge h
    rw [charsFrom, if_neg outside, ih (h.trans (p.lt_advance c).le)]

theorem charsFrom_inside (low : s.start ≤ p) (high : p.after text ≤ s.stop) :
    s.charsFrom p text = text := by
  induction text generalizing p with
  | nil => rfl
  | cons c text ih =>
    have inside : s.holds p = true :=
      holds_iff.mpr ⟨low, (p.lt_after (List.cons_ne_nil c text)).trans_le high⟩
    rw [charsFrom, if_pos inside, ih (low.trans (p.lt_advance c).le) high]

/-- The characters between two places of a text are those read from the one to the other. -/
theorem charsFrom_between (p : Position) (before inside behind : List Char) :
    (⟨p.after before, p.after (before ++ inside)⟩ : Span).charsFrom p (before ++ inside ++ behind) =
      inside := by
  rw [charsFrom_append, charsFrom_append, charsFrom_before le_rfl, charsFrom_behind le_rfl,
    charsFrom_inside le_rfl (Position.after_append p before inside).ge, List.nil_append,
    List.append_nil]

end Span

end SeriesScript

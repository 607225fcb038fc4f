import SeriesScript.Decimal.Dyadic
import SeriesScript.Proofs.Time.Exact

/-!
# The text of a period

The text of a period names its years, months and days one after the other, each count followed by
its letter and a count of zero left out. The letters tell the counts apart, so the period can be
read from its text, and different periods have different texts, also where their lengths are equal.
-/
namespace SeriesScript.Period

variable {c letter : Char} {rest : List Char}

/-! ## Reading -/

/-- The number that digits write, with a minus sign or none in front. -/
def intOfDigits : List Char → Int
  | '-' :: digits => -(Decimal.natOfDigits digits : Int)
  | digits => Decimal.natOfDigits digits

/-- The count in front of a letter and what follows the letter; a count is zero where its letter is
left out. -/
def readCount (letter : Char) (counts : List Char) : Int × List Char :=
  if letter ∈ counts then
    (intOfDigits (counts.takeWhile (· != letter)), (counts.dropWhile (· != letter)).tail)
  else (0, counts)

def ofText? (text : String) : Option Period :=
  match text.toList with
  | 'P' :: counts =>
    let (years, rest) := readCount 'Y' counts
    let (months, rest) := readCount 'M' rest
    let (days, rest) := readCount 'D' rest
    if rest = [] then ofComponents? years months days else none
  | _ => none

/-! ## Counts -/

def IsLetter (c : Char) : Prop := c ≠ '-' ∧ c.isDigit = false

def countText (n : Int32) : List Char :=
  (if n < 0 then ['-'] else []) ++ Nat.toDigits 10 n.toInt.natAbs

theorem componentText_eq (n : Int32) (letter : Char) :
    componentText n letter = if n = 0 then [] else countText n ++ [letter] := rfl

theorem not_mem_countText (h : IsLetter letter) (n : Int32) : letter ∉ countText n := by
  intro mem
  rcases List.mem_append.mp mem with sign | digit
  · split at sign
    · exact h.1 (List.mem_singleton.mp sign)
    · cases sign
  · have digit := Nat.isDigit_of_mem_toDigits (by decide) (by decide) digit
    exact absurd digit (by simp [h.2])

theorem mem_componentText_iff (h : IsLetter letter) (n : Int32) :
    letter ∈ componentText n c ↔ n ≠ 0 ∧ letter = c := by
  rw [componentText_eq]
  by_cases zero : n = 0
  · simp [zero]
  · simp [zero, not_mem_countText h]

theorem intOfDigits_toDigits (k : Nat) : intOfDigits (Nat.toDigits 10 k) = k := by
  rw [intOfDigits.eq_def]
  split
  · rename_i digits signed
    have digit := Nat.isDigit_of_mem_toDigits (b := 10) (n := k) (c := '-') (by decide) (by decide)
      (signed ▸ List.mem_cons_self)
    exact absurd digit (by decide)
  · rw [Decimal.natOfDigits, Nat.ofDigitChars_ten_toDigits]

theorem intOfDigits_minus_toDigits (k : Nat) : intOfDigits ('-' :: Nat.toDigits 10 k) = -k := by
  rw [intOfDigits, Decimal.natOfDigits, Nat.ofDigitChars_ten_toDigits]

theorem intOfDigits_countText (n : Int32) : intOfDigits (countText n) = n.toInt := by
  rw [countText]
  split
  · rename_i negative
    have below : n.toInt < 0 := Int32.lt_iff_toInt_lt.mp negative
    rw [List.singleton_append, intOfDigits_minus_toDigits]
    omega
  · rename_i unsigned
    have above : 0 ≤ n.toInt := Int.not_lt.mp fun below => unsigned (Int32.lt_iff_toInt_lt.mpr below)
    rw [List.nil_append, intOfDigits_toDigits]
    omega

/-- A count is read from its text, if its letter does not come again. -/
theorem readCount_componentText (h : IsLetter letter) (last : letter ∉ rest) (n : Int32) :
    readCount letter (componentText n letter ++ rest) = (n.toInt, rest) := by
  rw [componentText_eq]
  by_cases zero : n = 0
  · simp [zero, readCount, last]
  · have before : ∀ d ∈ countText n, (d != letter) = true := fun d mem =>
      bne_iff_ne.mpr fun same => not_mem_countText h n (same ▸ mem)
    simp [zero, readCount, List.takeWhile_append_of_pos before, List.dropWhile_append_of_pos before,
      intOfDigits_countText]

/-! ## Periods -/

theorem isLetter_years : IsLetter 'Y' := ⟨by decide, by decide⟩

theorem isLetter_months : IsLetter 'M' := ⟨by decide, by decide⟩

theorem isLetter_days : IsLetter 'D' := ⟨by decide, by decide⟩

theorem renderChars_of_ne_zero {p : Period} (some : p ≠ zero) :
    p.renderChars = 'P' :: (componentText p.years 'Y' ++
      (componentText p.months 'M' ++ componentText p.days 'D')) := by
  simp [renderChars, some]

theorem ofText?_render (p : Period) : ofText? p.render = some p := by
  by_cases none : p = zero
  · subst none
    rfl
  have monthsBehind : 'Y' ∉ componentText p.months 'M' ++ componentText p.days 'D' := by
    simp [mem_componentText_iff isLetter_years]
  have daysBehind : 'M' ∉ componentText p.days 'D' := by
    simp [mem_componentText_iff isLetter_months]
  have years := readCount_componentText isLetter_years monthsBehind p.years
  have months := readCount_componentText isLetter_months daysBehind p.months
  have days := readCount_componentText isLetter_days List.not_mem_nil p.days
  rw [List.append_nil] at days
  have counts : ofComponents? p.years.toInt p.months.toInt p.days.toInt = some p :=
    ofComponents?_eq_some_iff.mpr ⟨rfl, rfl, rfl⟩
  rw [ofText?, render, String.toList_ofList, renderChars_of_ne_zero none]
  simp only [years, months, days, ↓reduceIte, counts]

/-- The text of a period is read back, so it determines the period. It names the counts that are not
zero, and no days for a period without any. -/
theorem render_determines (p q : Period) :
    ofText? p.render = some p ∧ (p.render = q.render ↔ p = q) ∧ zero.render = "P0D" ∧
      ('Y' ∈ p.render.toList ↔ p.years ≠ 0) ∧ ('M' ∈ p.render.toList ↔ p.months ≠ 0) ∧
      ('D' ∈ p.render.toList ↔ p.days ≠ 0 ∨ p = zero) := by
  have same : p.render = q.render ↔ p = q := by
    constructor
    · intro texts
      have read := ofText?_render p
      rw [texts, ofText?_render q] at read
      exact (Option.some.inj read).symm
    · rintro rfl
      rfl
  refine ⟨ofText?_render p, same, rfl, ?_⟩
  by_cases none : p = zero
  · subst none
    decide
  · rw [render, String.toList_ofList, renderChars_of_ne_zero none]
    simp [mem_componentText_iff isLetter_years, mem_componentText_iff isLetter_months,
      mem_componentText_iff isLetter_days, none]

example : (⟨-1, 0, 12⟩ : Period).render = "P-1Y12D" := rfl

end SeriesScript.Period

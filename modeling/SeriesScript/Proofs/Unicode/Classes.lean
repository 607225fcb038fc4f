import SeriesScript.Decimal.Dyadic
import SeriesScript.Unicode.Classes

/-!
# Classes of characters

White space, letters and digits have no character in common, and every digit is a numeral. That two
classes have none in common is a finite check on their ranges.
-/
namespace SeriesScript

namespace Unicode.Ranges

variable {a b : Ranges} {n : Nat}

def apart (a b : Ranges) : Bool :=
  a.all fun (lo, hi) => b.all fun (lo', hi') => hi < lo' || hi' < lo

theorem exists_range_of_mem (h : a.mem n = true) : ∃ range ∈ a, range.1 ≤ n ∧ n ≤ range.2 := by
  induction a with
  | nil => cases h
  | cons range rest ih =>
    obtain ⟨lo, hi⟩ := range
    rw [Ranges.mem] at h
    split at h
    · cases h
    · rename_i above
      rcases Bool.or_eq_true_iff.mp h with below | h
      · exact ⟨(lo, hi), List.mem_cons_self, Nat.not_lt.mp above, of_decide_eq_true below⟩
      · obtain ⟨range, mem, inside⟩ := ih h
        exact ⟨range, List.mem_cons_of_mem _ mem, inside⟩

theorem mem_eq_false_of_apart (h : a.apart b = true) (mem : a.mem n = true) : b.mem n = false := by
  rw [← Bool.not_eq_true]
  intro mem'
  obtain ⟨r, hr, low, high⟩ := exists_range_of_mem mem
  obtain ⟨r', hr', low', high'⟩ := exists_range_of_mem mem'
  have disjoint := List.all_eq_true.mp (List.all_eq_true.mp h r hr) r' hr'
  simp only [Bool.or_eq_true, decide_eq_true_eq] at disjoint
  omega

end Unicode.Ranges

open Unicode

variable {c : Char}

theorem Unicode.isAlphabetic_of_isBlank (h : isBlank c = true) : isAlphabetic c = false :=
  Ranges.mem_eq_false_of_apart (a := blankRanges) (by decide +kernel) h

theorem Unicode.isNumeric_of_isBlank (h : isBlank c = true) : isNumeric c = false :=
  Ranges.mem_eq_false_of_apart (a := blankRanges) (by decide +kernel) h

namespace Decimal

def digitRange : Ranges := [(0x30, 0x39)]

theorem isDigit_eq_mem (c : Char) : isDigit c = digitRange.mem c.toNat := by
  have low : '0' ≤ c ↔ 0x30 ≤ c.toNat := Iff.rfl
  have high : c ≤ '9' ↔ c.toNat ≤ 0x39 := Iff.rfl
  rw [Bool.eq_iff_iff]
  simp [isDigit, digitRange, Ranges.mem, low, high]

theorem isAlphabetic_of_isDigit (h : isDigit c = true) : isAlphabetic c = false :=
  Ranges.mem_eq_false_of_apart (a := digitRange) (by decide +kernel) (isDigit_eq_mem c ▸ h)

theorem isBlank_of_isDigit (h : isDigit c = true) : isBlank c = false :=
  Ranges.mem_eq_false_of_apart (a := digitRange) (by decide +kernel) (isDigit_eq_mem c ▸ h)

end Decimal

end SeriesScript

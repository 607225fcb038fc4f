import SeriesScript.Decimal.Dyadic

/-!
# Durations

An exact length of time in whole nanoseconds. Its size is at most 2^63 - 1 milliseconds, so sums and
differences can fail.
-/
namespace SeriesScript

def nanosPerSecond : Int := 1000000000

structure Duration where
  nanos : Int
  bounded : nanos.natAbs ≤ 9223372036854775807 * 1000000
deriving DecidableEq

namespace Duration

def ofNanos? (nanos : Int) : Option Duration :=
  if h : nanos.natAbs ≤ 9223372036854775807 * 1000000 then some ⟨nanos, h⟩ else none

def ofSeconds? (seconds : Int) : Option Duration := ofNanos? (seconds * nanosPerSecond)

def zero : Duration := ⟨0, by decide⟩

def second : Duration := ⟨1000000000, by decide⟩

def minute : Duration := ⟨60000000000, by decide⟩

def hour : Duration := ⟨3600000000000, by decide⟩

instance : Inhabited Duration := ⟨zero⟩

def add? (a b : Duration) : Option Duration := ofNanos? (a.nanos + b.nanos)

def sub? (a b : Duration) : Option Duration := ofNanos? (a.nanos - b.nanos)

theorem ofNanos?_eq_some {n : Int} {d : Duration} (h : ofNanos? n = some d) : d.nanos = n := by
  unfold ofNanos? at h
  split at h
  · cases h; rfl
  · cases h

@[simp] theorem ofNanos?_nanos (d : Duration) : ofNanos? d.nanos = some d := by
  unfold ofNanos?
  rw [dif_pos d.bounded]

def isPositive (d : Duration) : Bool := 0 < d.nanos

/-- Whole seconds, cut toward zero. -/
def wholeSeconds (d : Duration) : Int := d.nanos.tdiv nanosPerSecond

/-- The nanoseconds beyond the whole seconds, with the same sign. -/
def subsecondNanos (d : Duration) : Int := d.nanos.tmod nanosPerSecond

/-- The length in seconds as a double, its whole and its fractional part rounded apart. -/
def seconds (d : Duration) : Float :=
  Float.ofInt d.wholeSeconds + Float.ofInt d.subsecondNanos / 1e9

/-- The duration of a number of seconds, rounded to the nanosecond; `none` for a NaN, an infinity
and a length out of range. -/
def ofFloat? (x : Float) : Option Duration :=
  match Decimal.Dyadic.ofFloat? x with
  | none => none
  | some d =>
    if 9223372036854776 ≤ d.truncate.natAbs then none
    else
      match Decimal.Dyadic.ofFloat? ((x - Float.ofInt d.truncate) * 1e9) with
      | none => none
      | some part => ofNanos? (d.truncate * nanosPerSecond + part.round)

/-- The fraction of a second in nine digits, without its trailing zeros and with its point. -/
def fractionText (nanos : Nat) : List Char :=
  if nanos = 0 then []
  else
    let digits := Nat.toDigits 10 nanos
    let padded := List.replicate (9 - digits.length) '0' ++ digits
    '.' :: (padded.reverse.dropWhile (· == '0')).reverse

/-- All of the duration in seconds, a sign in front, and `P0D` for none. -/
def render (d : Duration) : String :=
  if d.nanos = 0 then "P0D"
  else
    let size := d.nanos.natAbs
    String.ofList ((if d.nanos < 0 then ['-'] else []) ++ 'P' :: 'T' ::
      Nat.toDigits 10 (size / 1000000000) ++ fractionText (size % 1000000000) ++ ['S'])

end Duration

end SeriesScript

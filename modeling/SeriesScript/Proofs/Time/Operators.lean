import SeriesScript.Proofs.Time.Multiples

/-!
# Time amounts from operators

Sums and differences of periods, and their multiples by whole numbers of at most 31 bits, are
counted in years, months and days. Where a count does not fit into a period, or the period has no
length, they are refused; nothing wraps. All other operators give time amounts by their lengths,
which are durations, a multiple by a larger whole number among them.
-/
namespace SeriesScript

namespace Value

variable {op : BinaryOp} {x y : Value} {t : TimeAmount} {years months days : Int}

theorem lift_eq_ok {α : Type} {result : Except ArgumentFault α} {f : α → Value} {v : Value}
    (h : lift result f = .ok v) : ∃ a, result = .ok a ∧ v = f a := by
  cases result with
  | ok a =>
    cases h
    exact ⟨a, rfl, rfl⟩
  | error fault => cases h

theorem ok_of_lift_time {result : Except ArgumentFault TimeAmount}
    (h : lift result time = .ok (time t)) : result = .ok t := by
  obtain ⟨_, ok, same⟩ := lift_eq_ok h
  cases same
  exact ok

/-- The years, months and days that an operator on periods amounts to, counted without bounds. -/
inductive CountsTo : BinaryOp → Value → Value → Int → Int → Int → Prop
  | sum (p q : Period) : CountsTo .add (time (.period p)) (time (.period q))
      (p.years.toInt + q.years.toInt) (p.months.toInt + q.months.toInt)
      (p.days.toInt + q.days.toInt)
  | difference (p q : Period) : CountsTo .subtract (time (.period p)) (time (.period q))
      (p.years.toInt - q.years.toInt) (p.months.toInt - q.months.toInt)
      (p.days.toInt - q.days.toInt)
  | multiple (p : Period) (x : Number) {n : Int} (whole : Decimal.HasValue x.toFloat n) :
      CountsTo .multiply (time (.period p)) (number x) (p.years.toInt * n) (p.months.toInt * n)
        (p.days.toInt * n)
  | multipleOf (x : Number) (p : Period) {n : Int} (whole : Decimal.HasValue x.toFloat n) :
      CountsTo .multiply (number x) (time (.period p)) (p.years.toInt * n) (p.months.toInt * n)
        (p.days.toInt * n)

/-- A whole number of more than 31 bits. -/
def IsLargeFactor : Value → Prop
  | number x => ∃ n, Decimal.HasValue x.toFloat n ∧ 2147483647 < n.natAbs
  | _ => False

theorem small_of_not_isLargeFactor {z : Number} {n : Int} (usual : ¬ (number z).IsLargeFactor)
    (whole : Decimal.HasValue z.toFloat n) : n.natAbs ≤ 2147483647 :=
  Nat.le_of_not_lt fun large => usual ⟨n, whole, large⟩

theorem not_isLargeFactor {z : Number} {n : Int} (whole : Decimal.HasValue z.toFloat n)
    (small : n.natAbs ≤ 2147483647) : ¬ (number z).IsLargeFactor := by
  rintro ⟨k, whole', large⟩
  have same := whole.unique whole'
  omega

theorem CountsTo.apply_eq (h : CountsTo op x y years months days)
    (usual : ¬ (x.IsLargeFactor ∨ y.IsLargeFactor)) :
    x.apply op y = lift (TimeAmount.inRange
      (TimeAmount.resolvable? (Period.ofComponents? years months days))) time := by
  cases h with
  | sum p q | difference p q => rfl
  | multiple p z whole =>
    have small := small_of_not_isLargeFactor (fun large => usual (.inr large)) whole
    rw [apply, TimeAmount.scale_of_small whole small]
  | multipleOf z p whole =>
    have small := small_of_not_isLargeFactor (fun large => usual (.inl large)) whole
    rw [apply, TimeAmount.scale_of_small whole small]

theorem CountsTo.apply_of_fit (h : CountsTo op x y years months days)
    (usual : ¬ (x.IsLargeFactor ∨ y.IsLargeFactor)) (fit : Period.Fit years months days) :
    ∃ p : Period, p.Counts years months days ∧ p.duration?.isSome = true ∧
      x.apply op y = .ok (time (.period p)) := by
  obtain ⟨p, counts, resolves, made⟩ := TimeAmount.ofComponents_of_fit fit
  refine ⟨p, counts, resolves, ?_⟩
  rw [h.apply_eq usual, made]
  rfl

theorem CountsTo.apply_of_not_fit (h : CountsTo op x y years months days)
    (usual : ¬ (x.IsLargeFactor ∨ y.IsLargeFactor)) (unfit : ¬ Period.Fit years months days) :
    x.apply op y = .error (.invalidArgument .timeOutOfRange) := by
  rw [h.apply_eq usual, TimeAmount.ofComponents_of_not_fit unfit]
  rfl

theorem scale_of_isLargeFactor {z : Number} (large : (number z).IsLargeFactor) (p : Period) :
    lift ((TimeAmount.period p).scale z.toFloat) time = .error (.invalidArgument .timeOutOfRange) ∨
      ∃ d, lift ((TimeAmount.period p).scale z.toFloat) time = .ok (time (.duration d)) := by
  obtain ⟨n, whole, large⟩ := large
  rw [TimeAmount.scale_of_large whole large]
  rcases TimeAmount.inRange_duration_cases
    (p.duration?.bind fun d => Duration.ofFloat? (d.seconds * z.toFloat)) with refused | ⟨d, made⟩
  · exact .inl (by rw [refused]; rfl)
  · exact .inr ⟨d, by rw [made]; rfl⟩

/-- A multiple by a whole number of more than 31 bits is one of the length, as a fraction is. -/
theorem CountsTo.apply_of_large (h : CountsTo op x y years months days)
    (large : x.IsLargeFactor ∨ y.IsLargeFactor) :
    x.apply op y = .error (.invalidArgument .timeOutOfRange) ∨
      ∃ d, x.apply op y = .ok (time (.duration d)) := by
  cases h with
  | sum p q | difference p q => exact (large.elim id id).elim
  | multiple p z => exact scale_of_isLargeFactor (large.resolve_left id) p
  | multipleOf z p => exact scale_of_isLargeFactor (large.resolve_right id) p

/-- A time amount that an operator gives is counted as a period, or a duration. -/
theorem apply_eq_time (h : x.apply op y = .ok (time t)) :
    (∃ years months days, CountsTo op x y years months days ∧
      ¬ (x.IsLargeFactor ∨ y.IsLargeFactor)) ∨ ∃ d, t = .duration d := by
  unfold apply at h
  split at h
  case h_5 a b =>
    rw [TimeAmount.add_eq_join] at h
    rcases TimeAmount.join_eq_ok (ok_of_lift_time h) with ⟨p, q, rfl, rfl⟩ | length
    · exact .inl ⟨_, _, _, .sum p q, (Or.elim · id id)⟩
    · exact .inr length
  case h_6 a b =>
    rw [TimeAmount.sub_eq_join] at h
    rcases TimeAmount.join_eq_ok (ok_of_lift_time h) with ⟨p, q, rfl, rfl⟩ | length
    · exact .inl ⟨_, _, _, .difference p q, (Or.elim · id id)⟩
    · exact .inr length
  case h_7 a z =>
    rcases TimeAmount.scale_eq_ok (ok_of_lift_time h) with ⟨p, k, rfl, whole, small⟩ | length
    · exact .inl ⟨_, _, _, .multiple p z whole, (Or.elim · id (not_isLargeFactor whole small))⟩
    · exact .inr length
  case h_8 z a =>
    rcases TimeAmount.scale_eq_ok (ok_of_lift_time h) with ⟨p, k, rfl, whole, small⟩ | length
    · exact .inl ⟨_, _, _, .multipleOf z p whole, (Or.elim · (not_isLargeFactor whole small) id)⟩
    · exact .inr length
  case h_9 a n => exact .inr (TimeAmount.divide_eq_ok (ok_of_lift_time h))
  case h_17 =>
    rw [divideByTime] at h
    split at h
    · cases h
    · split at h <;> cases h
  case h_10 | h_18 | h_19 =>
    obtain ⟨_, _, same⟩ := lift_eq_ok h
    cases same
  all_goals cases h

theorem apply_eq_period {p : Period} (h : x.apply op y = .ok (time (.period p))) :
    ∃ years months days, CountsTo op x y years months days ∧ p.Counts years months days ∧
      p.duration?.isSome = true := by
  rcases apply_eq_time h with ⟨years, months, days, counted, usual⟩ | ⟨d, same⟩
  · by_cases fit : Period.Fit years months days
    · obtain ⟨q, counts, resolves, made⟩ := counted.apply_of_fit usual fit
      cases made.symm.trans h
      exact ⟨years, months, days, counted, counts, resolves⟩
    · cases (counted.apply_of_not_fit usual fit).symm.trans h
  · cases same

/-- An operator fails for the amounts it gets, or because it does not work on such values. -/
theorem apply_error {e : ScriptError} (h : x.apply op y = .error e) :
    (∃ fault, e = .invalidArgument fault) ∨
      e = .unsupportedOperands op x.valueType y.valueType := by
  have lifted {α : Type} {result : Except ArgumentFault α} {f : α → Value}
      (h : lift result f = .error e) : ∃ fault, e = .invalidArgument fault := by
    cases result with
    | ok a => cases h
    | error fault =>
      cases h
      exact ⟨fault, rfl⟩
  unfold apply at h
  split at h
  case h_5 | h_6 | h_7 | h_8 | h_9 | h_10 => exact .inl (lifted h)
  case h_17 =>
    rw [divideByTime] at h
    split at h
    · cases h
      exact .inl ⟨_, rfl⟩
    · split at h <;> cases h
      exact .inl ⟨_, rfl⟩
  case h_18 | h_19 => exact .inl (lifted h)
  case h_20 =>
    cases h
    exact .inr rfl
  all_goals cases h

/-- The nanoseconds that a sum or a difference comes to, where not both amounts are periods. -/
inductive LastsTo : BinaryOp → Value → Value → Int → Prop
  | sum {a b : TimeAmount} {d d' : Duration} (mixed : (a.isPeriod && b.isPeriod) = false)
      (left : a.length? = some d) (right : b.length? = some d') :
      LastsTo .add (time a) (time b) (d.nanos + d'.nanos)
  | difference {a b : TimeAmount} {d d' : Duration} (mixed : (a.isPeriod && b.isPeriod) = false)
      (left : a.length? = some d) (right : b.length? = some d') :
      LastsTo .subtract (time a) (time b) (d.nanos - d'.nanos)

theorem LastsTo.apply_eq {nanos : Int} (h : LastsTo op x y nanos) :
    x.apply op y =
      lift (TimeAmount.inRange ((Duration.ofNanos? nanos).map TimeAmount.duration)) time := by
  cases h with
  | sum mixed left right =>
    rw [apply, TimeAmount.add_eq_join, TimeAmount.join_of_mixed mixed, TimeAmount.combine?, left,
      right]
    rfl
  | difference mixed left right =>
    rw [apply, TimeAmount.sub_eq_join, TimeAmount.join_of_mixed mixed, TimeAmount.combine?, left,
      right]
    rfl

theorem LastsTo.apply_of_bounded {nanos : Int} (h : LastsTo op x y nanos)
    (bounded : nanos.natAbs ≤ 9223372036854775807 * 1000000) :
    ∃ d : Duration, d.nanos = nanos ∧ x.apply op y = .ok (time (.duration d)) := by
  refine ⟨⟨nanos, bounded⟩, rfl, ?_⟩
  rw [h.apply_eq, Duration.ofNanos?, dif_pos bounded]
  rfl

theorem LastsTo.apply_of_not_bounded {nanos : Int} (h : LastsTo op x y nanos)
    (long : ¬ nanos.natAbs ≤ 9223372036854775807 * 1000000) :
    x.apply op y = .error (.invalidArgument .timeOutOfRange) := by
  rw [h.apply_eq, Duration.ofNanos?, dif_neg long]
  rfl

end Value

end SeriesScript

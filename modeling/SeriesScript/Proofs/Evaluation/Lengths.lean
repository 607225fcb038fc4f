import SeriesScript.Proofs.Evaluation.Handled
import SeriesScript.Proofs.Evaluation.Inputs
import SeriesScript.Proofs.Time.Operators

/-!
# Every time amount has a length

A period can be too long for a duration, but no run ever handles one: the units are short, operators
refuse a result without a length, and functions give series.
-/
namespace SeriesScript

variable {prefs : Window.Preferences} {hardStart : Option Timestamp} {v : Value}

/-- A value that is no time amount, or one with a length. -/
def Value.HasLength (v : Value) : Prop := ∀ t, v = time t → t.length?.isSome = true

theorem TimeAmount.isSome_length?_ofUnit (u : TimeUnit) : (ofUnit u).length?.isSome = true := by
  cases u <;> decide

theorem Value.apply_hasLength {op : BinaryOp} {x y : Value} (h : x.apply op y = .ok v) :
    v.HasLength := by
  rintro t rfl
  cases t with
  | period p =>
    obtain ⟨-, -, -, -, -, resolves⟩ := apply_eq_period h
    exact resolves
  | duration d => rfl

theorem Value.HasLength.invariant (prefs : Window.Preferences) :
    Value.Invariant prefs Value.HasLength where
  literal l t ht := by
    cases l with
    | unit u =>
      cases ht
      exact TimeAmount.isSome_length?_ofUnit u
    | _ => cases ht
  operator op x y v _ _ h := apply_hasLength h
  function hardStart name args v _ h := by
    obtain ⟨f, invocation, s, -, -, -, rfl⟩ := callFunction_eq_ok h
    rintro t ⟨⟩

theorem TimeAmount.resolve_of_isSome {t : TimeAmount} (h : t.length?.isSome = true) :
    ∃ d, t.resolve = .ok d ∧ t.seconds = .ok d.seconds := by
  obtain ⟨d, hd⟩ := Option.isSome_iff_exists.mp h
  refine ⟨d, ?_, ?_⟩ <;> simp [seconds, resolve, hd, inRange, Except.map]

/-- Every time amount that a run handles has a length. Operators on periods are exact: what they
come to is counted without bounds, and if it does not fit into a period with a length, the operator
is refused and nothing wraps. Multiples by whole numbers of more than 31 bits are the exception:
these are taken of the length, and give a duration where the counts may fit no period. Sums and
differences of other amounts are durations, and refused if they are too long. There is no other way
to a period, and an operator fails for its amounts or for its types only. -/
theorem Program.handled_times_resolve (prefs : Window.Preferences) (store : Store)
    (program : List Statement) (start : Bindings) (seeded : store.bindings = .ok start) :
    (∀ t, Handles prefs start program (.time t) →
      ∃ d, t.resolve = .ok d ∧ t.seconds = .ok d.seconds) ∧
    (∀ op x y years months days, Value.CountsTo op x y years months days →
      (¬ (x.IsLargeFactor ∨ y.IsLargeFactor) →
        (Period.Fit years months days → ∃ p : Period, p.Counts years months days ∧
          p.duration?.isSome = true ∧ x.apply op y = .ok (.time (.period p))) ∧
        (¬ Period.Fit years months days →
          x.apply op y = .error (.invalidArgument .timeOutOfRange))) ∧
      (x.IsLargeFactor ∨ y.IsLargeFactor →
        x.apply op y = .error (.invalidArgument .timeOutOfRange) ∨
          ∃ d, x.apply op y = .ok (.time (.duration d)))) ∧
    (∀ op x y nanos, Value.LastsTo op x y nanos →
      (nanos.natAbs ≤ 9223372036854775807 * 1000000 →
        ∃ d : Duration, d.nanos = nanos ∧ x.apply op y = .ok (.time (.duration d))) ∧
      (¬ nanos.natAbs ≤ 9223372036854775807 * 1000000 →
        x.apply op y = .error (.invalidArgument .timeOutOfRange))) ∧
    (∀ op x y p, x.apply op y = .ok (.time (.period p)) →
      ∃ years months days, Value.CountsTo op x y years months days ∧
        p.Counts years months days ∧ p.duration?.isSome = true) ∧
    ∀ op (x y : Value) e, x.apply op y = .error e → (∃ fault, e = .invalidArgument fault) ∨
      e = .unsupportedOperands op x.valueType y.valueType := by
  refine ⟨fun t handled => ?_, ?_, ?_, fun op x y p => Value.apply_eq_period,
    fun op x y e => Value.apply_error⟩
  · have all : start.All Value.HasLength := by
      refine Store.bindings_all (fun entry _ data _ => ?_) seeded
      rintro t ⟨⟩
    exact TimeAmount.resolve_of_isSome ((Value.HasLength.invariant prefs).handles all handled t rfl)
  · intro op x y years months days counted
    exact ⟨fun usual => ⟨counted.apply_of_fit usual, counted.apply_of_not_fit usual⟩,
      counted.apply_of_large⟩
  · intro op x y nanos lasting
    exact ⟨lasting.apply_of_bounded, lasting.apply_of_not_bounded⟩

def Program.thirteenMonths : List Statement :=
  [.print (.binary .add (.literal (.unit .year) none) (.literal (.unit .month) none) none) none]

/-- No year can be added to the most years that a period counts. -/
theorem Program.handled_times_resolve_thirteenMonths :
    Store.empty.bindings = .ok .empty ∧
    Handles .default .empty thirteenMonths (.time (.period ⟨1, 1, 0⟩)) ∧
    (∃ d, (TimeAmount.period ⟨1, 1, 0⟩).resolve = .ok d) ∧
    (Value.time (.period ⟨2147483647, 0, 0⟩)).apply .add (.time (.period ⟨1, 0, 0⟩)) =
      .error (.invalidArgument .timeOutOfRange) := by
  have seeded : Store.empty.bindings = .ok .empty := rfl
  obtain ⟨resolves, counting, -⟩ := handled_times_resolve .default .empty thirteenMonths .empty seeded
  have reached : Reaches .default .empty thirteenMonths 1 .empty
      ([] ++ [.time (.period ⟨1, 1, 0⟩)]) := .step .start rfl rfl
  have handled : Handles .default .empty thirteenMonths (.time (.period ⟨1, 1, 0⟩)) :=
    .printed reached (by simp)
  have counted := Value.CountsTo.sum ⟨2147483647, 0, 0⟩ ⟨1, 0, 0⟩
  have usual : ¬ ((Value.time (.period ⟨2147483647, 0, 0⟩)).IsLargeFactor ∨
      (Value.time (.period ⟨1, 0, 0⟩)).IsLargeFactor) := (Or.elim · id id)
  refine ⟨seeded, handled, ?_, ((counting _ _ _ _ _ _ counted).1 usual).2 (by decide)⟩
  obtain ⟨d, resolved, -⟩ := resolves _ handled
  exact ⟨d, resolved⟩

/-- No period has `2147483648` days, and yet this multiple of a day is not refused. -/
theorem Value.not_refused_of_not_fit_days :
    ¬ ∀ op x y years months days, CountsTo op x y years months days →
      ¬ Period.Fit years months days → x.apply op y = .error (.invalidArgument .timeOutOfRange) := by
  intro claimed
  obtain ⟨whole, d, multiple⟩ := TimeAmount.scale_day_beyond
  have refused := claimed _ _ _ _ _ _ (.multiple ⟨0, 0, 1⟩ (.ofFloat 2147483648) whole) (by decide)
  have made : (time (.period ⟨0, 0, 1⟩)).apply .multiply (number (.ofFloat 2147483648)) =
      .ok (time (.duration d)) := by
    change lift ((TimeAmount.period ⟨0, 0, 1⟩).scale 2147483648) time = _
    rw [multiple]
    rfl
  cases made.symm.trans refused

end SeriesScript

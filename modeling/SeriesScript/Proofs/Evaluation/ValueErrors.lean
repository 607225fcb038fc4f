import SeriesScript.Function

/-!
# Errors about values

Operators and functions see values and no names: whatever they refuse, they refuse it for the
values they got, and never for a name, a stream or the text of the script.
-/
namespace SeriesScript

def ScriptError.concernsValues : ScriptError → Bool
  | .unknownFunction _ => true
  | .argumentMissing _ _ _ => true
  | .argumentType _ _ _ _ => true
  | .tooManyArguments _ _ _ => true
  | .wrongKind _ _ => true
  | .unsupportedOperands _ _ _ => true
  | .invalidArgument _ => true
  | .calendarExceeded => true
  | .notParsed _ => false
  | .invalid _ => false
  | .doubleDeclaration _ _ => false
  | .notDeclared _ _ => false
  | .streamFailed _ _ => false

/-- A result that fails, if it does, with an error about values. -/
def FailsOnValues {α : Type} (r : Except ScriptError α) : Prop :=
  ∀ e, r = .error e → e.concernsValues = true

namespace FailsOnValues

variable {α β : Type} {r : Except ScriptError α} {f : α → Except ScriptError β}

@[simp] theorem ok (a : α) : FailsOnValues (.ok a) := fun _ h => by cases h

@[simp] theorem error_iff (e : ScriptError) :
    FailsOnValues (.error e : Except ScriptError α) ↔ e.concernsValues = true :=
  ⟨fun h => h e rfl, fun h _ he => by cases he; exact h⟩

theorem bind (hr : FailsOnValues r) (hf : ∀ a, FailsOnValues (f a)) : FailsOnValues (r >>= f) := by
  intro e he
  cases r with
  | ok a => exact hf a e he
  | error e' =>
    cases he
    exact hr e rfl

end FailsOnValues

namespace Value

theorem lift_failsOnValues {α : Type} (result : Except ArgumentFault α) (f : α → Value) :
    FailsOnValues (lift result f) := by
  cases result <;> simp [lift, ScriptError.concernsValues]

theorem divideByTime_failsOnValues (s : Series) (t : TimeAmount) :
    FailsOnValues (divideByTime s t) := by
  rw [divideByTime]
  split
  · simp [ScriptError.concernsValues]
  · split <;> simp [ScriptError.concernsValues]

theorem apply_failsOnValues (op : BinaryOp) (left right : Value) :
    FailsOnValues (left.apply op right) := by
  unfold apply
  split <;>
    simp [lift_failsOnValues, divideByTime_failsOnValues, multiplyByTime, ScriptError.concernsValues]

end Value

namespace Arguments

variable (a : Arguments) (index : Nat)

theorem series_failsOnValues : FailsOnValues (a.series index) := by
  rw [series]
  split <;> simp [missing, wrongType, ScriptError.concernsValues]

theorem time_failsOnValues : FailsOnValues (a.time index) := by
  rw [time]
  split <;> simp [missing, wrongType, ScriptError.concernsValues]

theorem reduction_failsOnValues : FailsOnValues (a.reduction index) := by
  rw [reduction]
  split <;> simp [missing, wrongType, ScriptError.concernsValues]

theorem number?_failsOnValues : FailsOnValues (a.number? index) := by
  rw [number?]
  split <;> simp [wrongType, ScriptError.concernsValues]

theorem atMost_failsOnValues (most : Nat) : FailsOnValues (a.atMost most) := by
  rw [atMost]
  split <;> simp [ScriptError.concernsValues]

theorem ensureKind_failsOnValues (allowed : List Kind) (s : Series) :
    FailsOnValues (ensureKind allowed s) := by
  rw [ensureKind]
  split <;> simp [ScriptError.concernsValues]

theorem seriesOf_failsOnValues (allowed : List Kind) : FailsOnValues (a.seriesOf allowed index) :=
  (a.series_failsOnValues index).bind fun s => (ensureKind_failsOnValues allowed s).bind fun _ => .ok s

theorem textsFrom_failsOnValues (values : List Value) : FailsOnValues (a.textsFrom index values) := by
  induction values generalizing index with
  | nil => exact .ok []
  | cons v rest ih =>
    cases v with
    | text s => exact (ih (index + 1)).bind fun _ => .ok _
    | _ => simp [textsFrom, wrongType, ScriptError.concernsValues]

theorem texts_failsOnValues : FailsOnValues (a.texts index) := by
  rw [texts]
  split
  · simp [missing, ScriptError.concernsValues]
  · exact a.textsFrom_failsOnValues _ _

theorem seriesFrom_failsOnValues (kind : Kind) (values : List Value) :
    FailsOnValues (a.seriesFrom kind index values) := by
  induction values generalizing index with
  | nil => exact .ok []
  | cons v rest ih =>
    cases v with
    | series s =>
      exact (ensureKind_failsOnValues [kind] s).bind fun _ => (ih (index + 1)).bind fun _ => .ok _
    | _ => simp [seriesFrom, wrongType, ScriptError.concernsValues]

end Arguments

namespace Window

theorem positiveLength_failsOnValues (window : TimeAmount) :
    FailsOnValues (positiveLength window) := by
  rw [positiveLength]
  split
  · simp [ScriptError.concernsValues]
  · split <;> simp [ScriptError.concernsValues]

theorem tiles_failsOnValues (window : TimeAmount) (prefs : Preferences)
    (latest start : Timestamp) : FailsOnValues (tiles window prefs latest start) := by
  fun_induction tiles window prefs latest start with
  | case3 start before stop advanced forward inside e he ih =>
    simpa [he] using ih
  | _ => simp [ScriptError.concernsValues]

theorem fixed_failsOnValues (window : TimeAmount) (prefs : Preferences)
    (hardStart : Option Timestamp) (points : List Point) :
    FailsOnValues (fixed window prefs hardStart points) := by
  rw [fixed]
  split
  · simp
  · split
    · have h := tiles_failsOnValues window prefs
      split
      · simp
      · rename_i e he
        rw [FailsOnValues.error_iff]
        exact h _ _ e he
    · simp [ScriptError.concernsValues]

end Window

open Arguments in
theorem Function.prepare_failsOnValues (f : Function) (values : List Value) :
    FailsOnValues (f.prepare values) := by
  cases f with
  | delta | accumulate =>
    exact (seriesOf_failsOnValues _ _ _).bind fun _ => (atMost_failsOnValues _ _).bind fun _ => .ok _
  | derivative =>
    refine (seriesOf_failsOnValues _ _ _).bind fun _ => (time_failsOnValues _ _).bind fun per => ?_
    cases per.seconds with
    | error fault => simp [ScriptError.concernsValues]
    | ok seconds => exact (atMost_failsOnValues _ _).bind fun _ => .ok _
  | timeBetween =>
    exact (series_failsOnValues _ _).bind fun _ => (atMost_failsOnValues _ _).bind fun _ => .ok _
  | timeBetween2 =>
    exact (series_failsOnValues _ _).bind fun _ => (series_failsOnValues _ _).bind fun _ =>
      (atMost_failsOnValues _ _).bind fun _ => .ok _
  | filter | exclude =>
    exact (seriesOf_failsOnValues _ _ _).bind fun _ => (texts_failsOnValues _ _).bind fun _ => .ok _
  | merge =>
    exact (series_failsOnValues _ _).bind fun _ => (series_failsOnValues _ _).bind fun _ =>
      (seriesFrom_failsOnValues _ _ _ _).bind fun _ => .ok _
  | moving =>
    exact (seriesOf_failsOnValues _ _ _).bind fun _ => (reduction_failsOnValues _ _).bind fun _ =>
      (time_failsOnValues _ _).bind fun window => (atMost_failsOnValues _ _).bind fun _ =>
      (Window.positiveLength_failsOnValues window).bind fun _ => .ok _
  | bin =>
    exact (seriesOf_failsOnValues _ _ _).bind fun _ => (reduction_failsOnValues _ _).bind fun _ =>
      (time_failsOnValues _ _).bind fun window => (number?_failsOnValues _ _).bind fun _ =>
      (atMost_failsOnValues _ _).bind fun _ =>
      (Window.positiveLength_failsOnValues window).bind fun _ => .ok _

theorem Invocation.perform_failsOnValues (prefs : Window.Preferences) (hardStart : Option Timestamp)
    (invocation : Invocation) : FailsOnValues (invocation.perform prefs hardStart) := by
  cases invocation with
  | bin data r window fallback =>
    have h := Window.fixed_failsOnValues window prefs hardStart data.points
    simp only [perform]
    split
    · simp
    · rename_i e he
      rw [FailsOnValues.error_iff]
      exact h e he
  | _ => exact .ok _

theorem callFunction_failsOnValues (prefs : Window.Preferences) (hardStart : Option Timestamp)
    (name : String) (values : List Value) :
    FailsOnValues (callFunction prefs hardStart name values) := by
  rw [callFunction]
  split
  · simp [ScriptError.concernsValues]
  · rename_i f _
    split
    · rename_i e he
      simpa using f.prepare_failsOnValues values e he
    · rename_i invocation _
      split
      · simp
      · rename_i e he
        simpa using invocation.perform_failsOnValues prefs hardStart e he

end SeriesScript

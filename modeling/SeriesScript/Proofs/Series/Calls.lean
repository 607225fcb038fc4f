import SeriesScript.Function

/-!
# Calls with right arguments

A call succeeds when its arguments are prepared and its function can be performed on them.
-/
namespace SeriesScript

variable {prefs : Window.Preferences} {hardStart : Option Timestamp} {kind : Kind}
  {inputs : List Series} {data : Series} {t : TimeAmount} {length : Duration}

theorem callFunction_of_prepare {name : String} {f : Function} {args : List Value}
    {invocation : Invocation} {result : Series} (found : Function.ofName? name = some f)
    (prepared : f.prepare args = .ok invocation)
    (performed : invocation.perform prefs hardStart = .ok result) :
    callFunction prefs hardStart name args = .ok (.series result) := by
  simp only [callFunction, found, prepared, performed]

theorem Arguments.seriesOf_of_mem {allowed : List Kind} (mem : data.kind ∈ allowed) (name : String)
    (rest : List Value) :
    Arguments.seriesOf ⟨name, .series data :: rest⟩ allowed 0 = .ok data := by
  have accepted : ensureKind allowed data = .ok () := by
    simp [ensureKind, mem]
  simp [seriesOf, series, accepted, bind, Except.bind, pure, Except.pure]

theorem Arguments.seriesFrom_of_kind (a : Arguments) (alike : ∀ s ∈ inputs, s.kind = kind)
    (index : Nat) : a.seriesFrom kind index (inputs.map Value.series) = .ok inputs := by
  induction inputs generalizing index with
  | nil => rfl
  | cons s rest ih =>
    rw [List.forall_mem_cons] at alike
    have accepted : ensureKind [kind] s = .ok () := by
      simp [ensureKind, alike.1]
    simp [seriesFrom, accepted, ih alike.2]
    rfl

theorem Arguments.textsFrom_map (a : Arguments) (labels : List String) (index : Nat) :
    a.textsFrom index (labels.map Value.text) = .ok labels := by
  induction labels generalizing index with
  | nil => rfl
  | cons label rest ih =>
    rw [List.map_cons, textsFrom, ih]
    rfl

theorem Arguments.texts_map {labels : List String} (some : labels ≠ []) (name : String) (v : Value) :
    Arguments.texts ⟨name, v :: labels.map Value.text⟩ 1 = .ok labels := by
  have enough : ¬ (v :: labels.map Value.text).length ≤ 1 := by
    simpa using some
  rw [texts, if_neg enough]
  exact textsFrom_map _ labels 1

/-- Both functions that select read the labels behind the series. -/
theorem Function.prepare_selection {labels : List String} (categorical : data.kind = .categorical)
    (some : labels ≠ []) (keep : Bool) :
    (if keep then Function.filter else .exclude).prepare (.series data :: labels.map Value.text) =
      .ok (.select keep data labels) := by
  have mem : data.kind ∈ [Kind.categorical] := List.mem_singleton.mpr categorical
  cases keep <;>
  · simp only [↓reduceIte, Bool.false_eq_true, prepare, Arguments.seriesOf_of_mem mem, bind,
      Except.bind, Arguments.texts_map some]
    rfl

theorem Function.prepare_merge (several : 2 ≤ inputs.length)
    (alike : ∀ s ∈ inputs, s.kind = kind) :
    Function.merge.prepare (inputs.map Value.series) = .ok (.merge kind inputs) := by
  match inputs with
  | first :: second :: rest =>
    obtain rfl : first.kind = kind := alike first List.mem_cons_self
    have accepted := Arguments.seriesFrom_of_kind
      ⟨Function.merge.name, (first :: second :: rest).map Value.series⟩ alike 0
    simp only [prepare, bind, Except.bind, Arguments.series, List.map_cons,
      List.getElem?_cons_zero, List.getElem?_cons_succ]
    rw [List.map_cons, List.map_cons] at accepted
    rw [accepted]
    rfl

theorem Function.prepare_derivative (mem : data.kind ∈ measured) (resolved : t.resolve = .ok length) :
    Function.derivative.prepare [.series data, .time t] =
      .ok (.derivative data (.ofFloat length.seconds)) := by
  have accepted := Arguments.seriesOf_of_mem mem Function.derivative.name [.time t]
  have seconds : t.seconds = .ok length.seconds := by
    rw [TimeAmount.seconds, resolved]
    rfl
  simp only [prepare, accepted, bind, Except.bind, Arguments.time, List.getElem?_cons_succ,
    List.getElem?_cons_zero, seconds]
  rfl

theorem Function.prepare_timeBetween (data : Series) :
    Function.timeBetween.prepare [.series data] = .ok (.timeBetween data) := rfl

theorem Function.prepare_timeBetween2 (data references : Series) :
    Function.timeBetween2.prepare [.series data, .series references] =
      .ok (.timeBetween2 data references) := rfl

end SeriesScript

import SeriesScript.Proofs.Evaluation.Applications
import SeriesScript.Proofs.Evaluation.InStep
import SeriesScript.Proofs.Scope.Runs
import SeriesScript.Proofs.Window.Partition

/-!
# What points do not decide

Two values are alike if they are the same or series of one kind. Operators and functions look at the
kinds of series before they look at points, and their faults, and the kinds of what they give, do
not depend on points; only fixed windows can run out of the calendar. So runs over streams with
the same names and kinds print and bind alike values, or fail with the same error.
-/
namespace SeriesScript

/-- The same value, or two series of one kind. -/
inductive Value.Alike : Value → Value → Prop
  | same (v : Value) : Alike v v
  | series {s s' : Series} (kind : s.kind = s'.kind) : Alike (.series s) (.series s')

variable {prefs : Window.Preferences} {hardStart : Option Timestamp} {b b' : Bindings}
  {values values' : List Value} {e : ScriptError}

/-! ## Operators -/

namespace Value.Alike

theorem multiplyByTime (s s' : Series) (t : TimeAmount) :
    Matched Eq Alike (multiplyByTime s t) (multiplyByTime s' t) := by
  rw [Value.multiplyByTime, Value.multiplyByTime]
  cases t.seconds with
  | ok seconds => exact .ok (.series rfl)
  | error fault => exact .error rfl

theorem divideByTime (s s' : Series) (t : TimeAmount) :
    Matched Eq Alike (divideByTime s t) (divideByTime s' t) := by
  rw [Value.divideByTime, Value.divideByTime]
  cases t.seconds with
  | ok seconds =>
    by_cases zero : (seconds == 0) = true
    · simp only [zero, if_true]
      exact .error rfl
    · simp only [zero]
      exact .ok (.series rfl)
  | error fault => exact .error rfl

theorem apply (op : BinaryOp) {x x' y y' : Value} (hx : Alike x x') (hy : Alike y y') :
    Matched Eq Alike (x.apply op y) (x'.apply op y') := by
  cases hx with
  | same x =>
    cases hy with
    | same y => exact Matched.refl .same _
    | series kind =>
      cases x with
      | number x => cases op with
        | add | multiply => exact .ok (.series kind)
        | subtract | divide => exact .error rfl
      | time t => cases op with
        | multiply => exact multiplyByTime _ _ t
        | add | subtract | divide => exact .error rfl
      | series _ | reduction _ | text _ => cases op <;> exact .error rfl
  | series kind =>
    cases hy with
    | same y =>
      cases y with
      | number y => cases op <;> exact .ok (.series kind)
      | time t => cases op with
        | multiply => exact multiplyByTime _ _ t
        | divide => exact divideByTime _ _ t
        | add | subtract => exact .error rfl
      | series _ | reduction _ | text _ => cases op <;> exact .error rfl
    | series _ => cases op <;> exact .error rfl

end Value.Alike

/-! ## Arguments -/

namespace Arguments

open Value.Alike

theorem getElem?_alike (alike : List.Forall₂ Value.Alike values values') (index : Nat) :
    values[index]? = values'[index]? ∨
      ∃ s s', values[index]? = some (.series s) ∧ values'[index]? = some (.series s') ∧
        s.kind = s'.kind := by
  induction alike generalizing index with
  | nil => exact .inl rfl
  | cons head _ ih =>
    cases index with
    | zero =>
      cases head with
      | same v => exact .inl rfl
      | @series s s' kind => exact .inr ⟨s, s', rfl, rfl, kind⟩
    | succ index => simpa using ih index

variable (name : String) (alike : List.Forall₂ Value.Alike values values') (index : Nat)

include alike

/-- What is read of an argument is alike if it is the same for the same value, and alike for two
series of one kind. -/
theorem argument_alike {α : Type} {R : α → α → Prop} {read read' : Except ScriptError α}
    (refl : ∀ a, R a a) (ofSame : values[index]? = values'[index]? → read = read')
    (ofSeries : ∀ s s', values[index]? = some (.series s) → values'[index]? = some (.series s') →
      s.kind = s'.kind → Matched Eq R read read') : Matched Eq R read read' := by
  rcases getElem?_alike alike index with same | ⟨s, s', hs, hs', kind⟩
  · rw [ofSame same]
    exact Matched.refl refl _
  · exact ofSeries s s' hs hs' kind

theorem series_alike : Matched Eq (fun s s' => s.kind = s'.kind)
    (series ⟨name, values⟩ index) (series ⟨name, values'⟩ index) :=
  argument_alike alike index (fun _ => rfl) (fun same => by rw [series, series, same]; rfl)
    fun s s' hs hs' kind => by rw [series, series, hs, hs']; exact .ok kind

theorem time_alike : Matched Eq Eq (time ⟨name, values⟩ index) (time ⟨name, values'⟩ index) :=
  argument_alike alike index (fun _ => rfl) (fun same => by rw [time, time, same]; rfl)
    fun s s' hs hs' _ => by rw [time, time, hs, hs']; exact .error rfl

theorem reduction_alike :
    Matched Eq Eq (reduction ⟨name, values⟩ index) (reduction ⟨name, values'⟩ index) :=
  argument_alike alike index (fun _ => rfl) (fun same => by rw [reduction, reduction, same]; rfl)
    fun s s' hs hs' _ => by rw [reduction, reduction, hs, hs']; exact .error rfl

theorem number?_alike :
    Matched Eq Eq (number? ⟨name, values⟩ index) (number? ⟨name, values'⟩ index) :=
  argument_alike alike index (fun _ => rfl) (fun same => by rw [number?, number?, same]; rfl)
    fun s s' hs hs' _ => by rw [number?, number?, hs, hs']; exact .error rfl

theorem atMost_alike (most : Nat) :
    Matched Eq Eq (atMost ⟨name, values⟩ most) (atMost ⟨name, values'⟩ most) := by
  rw [atMost, atMost]
  simp only [alike.length_eq]
  exact Matched.refl (fun _ => rfl) _

theorem seriesOf_alike (allowed : List Kind) : Matched Eq (fun s s' => s.kind = s'.kind)
    (seriesOf ⟨name, values⟩ allowed index) (seriesOf ⟨name, values'⟩ allowed index) := by
  refine (series_alike name alike index).bind fun s s' kind => ?_
  rw [ensureKind, ensureKind, kind]
  exact (Matched.refl (fun _ => rfl) _).bind fun _ _ _ => .ok kind

theorem textsFrom_alike (given given' : List Value) :
    Matched Eq Eq (textsFrom ⟨name, given⟩ index values)
      (textsFrom ⟨name, given'⟩ index values') := by
  induction alike generalizing index with
  | nil => exact .ok rfl
  | @cons v _ _ _ head _ ih =>
    cases head with
    | same =>
      cases v with
      | text s => exact (ih (index + 1)).bind fun _ _ same => .ok (by rw [same])
      | number _ | time _ | series _ | reduction _ => exact .error rfl
    | series _ => exact .error rfl

theorem texts_alike : Matched Eq Eq (texts ⟨name, values⟩ index) (texts ⟨name, values'⟩ index) := by
  rw [texts, texts]
  simp only [alike.length_eq]
  split
  · exact .error rfl
  · exact textsFrom_alike name (List.forall₂_drop index alike) index values values'

theorem seriesFrom_alike (kind : Kind) (given given' : List Value) :
    Matched Eq (fun _ _ => True) (seriesFrom ⟨name, given⟩ kind index values)
      (seriesFrom ⟨name, given'⟩ kind index values') := by
  have one (s s' : Series) (same : s.kind = s'.kind) {rest rest' : Except ScriptError (List Series)}
      (others : Matched Eq (fun _ _ => True) rest rest') :
      Matched Eq (fun _ _ => True) (do ensureKind [kind] s; return s :: (← rest))
        (do ensureKind [kind] s'; return s' :: (← rest')) := by
    rw [ensureKind, ensureKind, same]
    exact (Matched.refl (fun _ => rfl) _).bind fun _ _ _ => others.bind fun _ _ _ => .ok trivial
  induction alike generalizing index with
  | nil => exact .ok trivial
  | @cons v _ _ _ head _ ih =>
    cases head with
    | same =>
      cases v with
      | series s => exact one s s rfl (ih (index + 1))
      | number _ | time _ | reduction _ | text _ => exact .error rfl
    | @series s s' same => exact one s s' same (ih (index + 1))

end Arguments

/-! ## Functions -/

def Invocation.kind : Invocation → Kind
  | delta data => data.kind
  | accumulate data => data.kind
  | derivative data _ => data.kind
  | timeBetween _ => .time
  | timeBetween2 _ _ => .time
  | select _ data _ => data.kind
  | merge kind _ => kind
  | moving data r _ => resultKind r data.kind
  | bin data r _ _ => resultKind r data.kind

open Arguments Value.Alike in
/-- Faults of arguments, and the kind of the result, do not depend on points. -/
theorem Function.prepare_alike (f : Function) (alike : List.Forall₂ Value.Alike values values') :
    Matched Eq (fun i i' => i.kind = i'.kind) (f.prepare values) (f.prepare values') := by
  cases f with
  | delta | accumulate =>
    exact (seriesOf_alike _ alike _ _).bind fun _ _ kind =>
      (atMost_alike _ alike _).bind fun _ _ _ => .ok kind
  | derivative =>
    refine (seriesOf_alike _ alike _ _).bind fun _ _ kind => (time_alike _ alike _).bind ?_
    rintro per _ rfl
    cases per.seconds with
    | error fault => exact .error rfl
    | ok seconds => exact (atMost_alike _ alike _).bind fun _ _ _ => .ok kind
  | timeBetween =>
    exact (series_alike _ alike _).bind fun _ _ _ =>
      (atMost_alike _ alike _).bind fun _ _ _ => .ok rfl
  | timeBetween2 =>
    exact (series_alike _ alike _).bind fun _ _ _ => (series_alike _ alike _).bind fun _ _ _ =>
      (atMost_alike _ alike _).bind fun _ _ _ => .ok rfl
  | filter | exclude =>
    exact (seriesOf_alike _ alike _ _).bind fun _ _ kind =>
      (texts_alike _ alike _).bind fun _ _ _ => .ok kind
  | merge =>
    refine (series_alike _ alike _).bind fun first first' kind =>
      (series_alike _ alike _).bind fun _ _ _ => ?_
    rw [kind]
    exact (seriesFrom_alike _ alike _ _ _ _).bind fun _ _ _ => .ok rfl
  | moving =>
    refine (seriesOf_alike _ alike _ _).bind fun _ _ kind => (reduction_alike _ alike _).bind ?_
    rintro r _ rfl
    refine (time_alike _ alike _).bind ?_
    rintro window _ rfl
    exact (atMost_alike _ alike _).bind fun _ _ _ =>
      (Matched.refl (fun _ => rfl) _).bind fun _ _ _ =>
        .ok (congrArg (Invocation.resultKind r) kind)
  | bin =>
    refine (seriesOf_alike _ alike _ _).bind fun _ _ kind => (reduction_alike _ alike _).bind ?_
    rintro r _ rfl
    refine (time_alike _ alike _).bind ?_
    rintro window _ rfl
    exact (number?_alike _ alike _).bind fun _ _ _ => (atMost_alike _ alike _).bind fun _ _ _ =>
      (Matched.refl (fun _ => rfl) _).bind fun _ _ _ =>
        .ok (congrArg (Invocation.resultKind r) kind)

theorem Invocation.kind_of_perform {invocation : Invocation} {s : Series}
    (h : invocation.perform prefs hardStart = .ok s) : s.kind = invocation.kind := by
  cases invocation with
  | bin data r window fallback =>
    rw [perform] at h
    split at h <;> cases h
    rfl
  | _ =>
    cases h
    rfl

/-- A prepared call fails only where fixed windows cannot be laid. -/
theorem Invocation.perform_error {invocation : Invocation}
    (h : invocation.perform prefs hardStart = .error e) :
    ∃ data r window fallback, invocation = .bin data r window fallback ∧
      Window.fixed window prefs hardStart data.points = .error e := by
  cases invocation with
  | bin data r window fallback =>
    refine ⟨data, r, window, fallback, rfl, ?_⟩
    rw [perform] at h
    split at h
    · cases h
    · cases h
      assumption
  | _ => cases h

/-- A call whose arguments are all right, but whose fixed windows cannot be laid. -/
def Application.FailsOnWindows (prefs : Window.Preferences) (b : Bindings) : Application → Prop
  | operator _ _ _ => False
  | function name args =>
    ∃ f data r window fallback e, Function.ofName? name = some f ∧
      f.prepare args = .ok (.bin data r window fallback) ∧
      Window.fixed window prefs b.earliest? data.points = .error e

theorem callFunction_alike {name : String} (alike : List.Forall₂ Value.Alike values values')
    (laid : ¬(Application.function name values).FailsOnWindows prefs b)
    (laid' : ¬(Application.function name values').FailsOnWindows prefs b') :
    Matched Eq Value.Alike (callFunction prefs b.earliest? name values)
      (callFunction prefs b'.earliest? name values') := by
  rw [callFunction, callFunction]
  cases hf : Function.ofName? name with
  | none => exact .error rfl
  | some f =>
    have prepared := f.prepare_alike alike
    simp only
    generalize hi : f.prepare values = i, hi' : f.prepare values' = i' at prepared
    cases prepared with
    | error related => exact .error related
    | @ok i i' kind =>
      simp only
      cases hs : i.perform prefs b.earliest? with
      | error e =>
        obtain ⟨data, r, window, fallback, rfl, failed⟩ := Invocation.perform_error hs
        exact absurd ⟨f, data, r, window, fallback, e, hf, hi, failed⟩ laid
      | ok s =>
        cases hs' : i'.perform prefs b'.earliest? with
        | error e =>
          obtain ⟨data, r, window, fallback, rfl, failed⟩ := Invocation.perform_error hs'
          exact absurd ⟨f, data, r, window, fallback, e, hf, hi', failed⟩ laid'
        | ok s' =>
          refine .ok (.series ?_)
          rw [Invocation.kind_of_perform hs, Invocation.kind_of_perform hs', kind]

/-! ## Runs -/

def Correspondence.alike : Correspondence :=
  .inStep (fun _ => true) id Value.Alike (Set.injOn_id _) (fun l => .same l.evaluate)
    fun op _ _ _ _ hx hy => (hx.apply op hy).imp (fun e e' h => by simp [h]) fun _ _ h => h

/-- Streams of the same names and kinds in the same order, all of which can be read. -/
def Store.SameStreams (store store' : Store) : Prop :=
  List.Forall₂ (fun entry entry' => entry.1 = entry'.1 ∧ entry.2.kind = entry'.2.kind ∧
    entry.2.Readable ∧ entry'.2.Readable) store.streams store'.streams

theorem Store.SameStreams.bindings {store store' : Store} (same : store.SameStreams store') :
    Correspondence.alike.Matches Correspondence.alike.bindings store.bindings store'.bindings := by
  have empty : Correspondence.alike.bindings .empty .empty := List.Forall₂.nil
  refine Correspondence.bindAll empty (same.imp ?_)
  rintro ⟨name, s⟩ ⟨_, s'⟩ ⟨rfl, kind, readable, readable'⟩
  obtain ⟨points, -, hs⟩ := readable.series_eq name
  obtain ⟨points', -, hs'⟩ := readable'.series_eq name
  refine ⟨rfl, rfl, ?_⟩
  simp only [hs, hs']
  exact .ok (.series kind)

namespace Program

def FailsOnWindows (prefs : Window.Preferences) (store : Store) (program : List Statement) : Prop :=
  ∃ start k b printed s a, store.bindings = .ok start ∧ Reaches prefs start program k b printed ∧
    program[k]? = some s ∧ a ∈ s.applications prefs b ∧ a.FailsOnWindows prefs b

theorem FailsOnWindows.result_eq_error {store : Store} {program : List Statement}
    (h : FailsOnWindows prefs store program) :
    ∃ e, (evaluate prefs store program).result = .error e := by
  obtain ⟨start, k, c, printed, s, a, seeded, reached, at_k, mem, failed⟩ := h
  cases a with
  | operator _ _ _ => cases failed
  | function name args =>
    obtain ⟨f, data, r, window, fallback, e, named, prepared, failed⟩ := failed
    have result : (Application.function name args).result prefs c = .error e := by
      simp [Application.result, callFunction, named, prepared, Invocation.perform, failed]
    have raised : execute prefs start program = ⟨printed, .error e⟩ :=
      execute_eq_error_iff.mpr ⟨k, c, s, reached, at_k, Statement.execute_of_failed mem result⟩
    exact ⟨e, by simp [evaluate, seeded, raised]⟩

theorem not_failsOnWindows {store : Store} {program : List Statement}
    (succeeds : (evaluate prefs store program).result.isOk = true) :
    ¬FailsOnWindows prefs store program := by
  intro failed
  obtain ⟨e, he⟩ := failed.result_eq_error
  rw [he] at succeeds
  cases succeeds

/-- What the points of streams decide is points alone. Unless one of them fails in laying fixed
windows, two runs over streams of the same names and kinds either fail with the same error, or bind
the same names in the same order, in both cases after as many printed values; and the values that
are printed or bound in the same place are the same, or series of one kind. -/
theorem evaluate_alike (prefs : Window.Preferences) (program : List Statement)
    (store store' : Store) (same : store.SameStreams store') (laid : ¬FailsOnWindows prefs store program)
    (laid' : ¬FailsOnWindows prefs store' program) :
    let o := evaluate prefs store program
    let o' := evaluate prefs store' program
    List.Forall₂ Value.Alike o.printed o'.printed ∧
      Matched Eq (fun b b' => List.Forall₂ (fun entry entry' => entry.1 = entry'.1 ∧
        entry.2.Alike entry'.2) b.toList b'.toList) o.result o'.result := by
  intro o o'
  have renamed : rename Correspondence.alike.rename program = program := rename_id program
  have outcomes : Correspondence.alike.Outcomes o o' := by
    have h := Correspondence.alike.evaluation prefs program same.bindings (fun s _ name _ => rfl) ?_
    · rwa [renamed] at h
    · intro start start' hs hs' k c c' printed printed' s reached reached' _ at_k
      rw [renamed] at reached'
      intro name args args' mem mem' related
      rw [show s.rename Correspondence.alike.rename = s from s.rename_id] at mem'
      have here : ¬(Application.function name args).FailsOnWindows prefs c := fun failed =>
        laid ⟨start, k, c, printed, s, _, hs, reached, at_k, mem, failed⟩
      have there : ¬(Application.function name args').FailsOnWindows prefs c' := fun failed =>
        laid' ⟨start', k, c', printed', s, _, hs', reached', at_k, mem', failed⟩
      exact (callFunction_alike related here there).imp
        (fun e e' h => h ▸ e.rename_id.symm) fun _ _ h => h
  refine ⟨outcomes.printed, outcomes.result.imp (fun e e' h => ?_) fun b b' h => ?_⟩
  · rw [h]
    exact e.rename_id.symm
  · have in_step : Bindings.InStep (fun _ => true) id Value.Alike b b' := h
    rw [Bindings.InStep, List.filter_true] at in_step
    exact in_step.imp fun entry entry' h => ⟨h.1.symm, h.2⟩

def monthly : List Statement :=
  [.declare "months" (.call "Bin" [.reference "load" none, .literal (.reduction .count) none,
    .literal (.unit .month) none] none) none,
   .print (.reference "months" none) none]

theorem evaluate_alike_monthly :
    let store : Store := ⟨[("load", .ofPoints .time .newestFirst Window.leapNight.reverse)]⟩
    let store' : Store := ⟨[("load", .ofPoints .time .oldestFirst [])]⟩
    store.SameStreams store' ∧ ¬FailsOnWindows .default store monthly ∧
      ¬FailsOnWindows .default store' monthly ∧
      List.Forall₂ Value.Alike (evaluate .default store monthly).printed
        (evaluate .default store' monthly).printed := by
  intro store store'
  have same : store.SameStreams store' := by
    simp [Store.SameStreams, store, store', PointStream.ofPoints, PointStream.Readable]
  have sorted : Series.oldestFirst Window.leapNight = Window.leapNight :=
    List.mergeSort_of_pairwise (by simp [Window.leapNight, Point.atMost, Timestamp.atMost])
  have seeded : store.bindings =
      .ok ((Bindings.empty.declare? "load" (.series ⟨Window.leapNight, .time⟩)).getD .empty) := by
    simp [Store.bindings, Store.bindAll, store, PointStream.series, PointStream.ofPoints,
      PointStream.arrange, sorted]
  have succeeds : (evaluate .default store monthly).result.isOk = true := by
    rw [evaluate, seeded]
    decide +kernel
  have succeeds' : (evaluate .default store' monthly).result.isOk = true := by decide +kernel
  have laid := not_failsOnWindows succeeds
  have laid' := not_failsOnWindows succeeds'
  exact ⟨same, laid, laid', (evaluate_alike .default monthly store store' same laid laid').1⟩

end Program

end SeriesScript

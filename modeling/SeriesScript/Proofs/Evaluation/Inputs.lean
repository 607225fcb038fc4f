import SeriesScript.Proofs.Series.Marks

/-!
# The inputs of operators and calls

An operator gives a series only by working on the values of an operand, and a prepared call works on
series that are among its arguments. Of these, most calls take the marks of one; the others merge
all of them, or reduce bins.
-/
namespace SeriesScript

namespace Value

variable {r : Series}

theorem lift_ne_series {α : Type} {result : Except ArgumentFault α} {f : α → Value}
    (hf : ∀ a, f a ≠ series r) : lift result f ≠ .ok (series r) := by
  cases result with
  | ok a =>
    intro h
    exact hf a (Except.ok.inj h)
  | error fault =>
    intro h
    cases h

/-- An operator gives a series only by working on the values of an operand. -/
theorem apply_eq_series {op : BinaryOp} {x y : Value} (h : x.apply op y = .ok (series r)) :
    ∃ s f kind, (x = series s ∨ y = series s) ∧ r = s.mapValues f kind := by
  unfold apply at h
  split at h
  case h_1 | h_2 | h_3 | h_4 | h_20 => cases h
  case h_5 | h_6 | h_7 | h_8 | h_9 | h_10 =>
    exact absurd h (lift_ne_series fun _ he => by cases he)
  case h_11 | h_13 | h_14 | h_16 =>
    cases h
    exact ⟨_, _, _, .inl rfl, rfl⟩
  case h_12 | h_15 =>
    cases h
    exact ⟨_, _, _, .inr rfl, rfl⟩
  case h_17 s t =>
    rw [divideByTime] at h
    split at h
    · cases h
    · split at h <;> cases h
      exact ⟨s, _, _, .inl rfl, rfl⟩
  case h_18 s t =>
    unfold multiplyByTime lift at h
    split at h <;> cases h
    exact ⟨s, _, _, .inl rfl, rfl⟩
  case h_19 t s =>
    unfold multiplyByTime lift at h
    split at h <;> cases h
    exact ⟨s, _, _, .inr rfl, rfl⟩

end Value

/-- A result that has a property, if there is one. -/
def Gives {α : Type} (P : α → Prop) (r : Except ScriptError α) : Prop := ∀ a, r = .ok a → P a

namespace Gives

variable {α β : Type} {P : α → Prop} {Q : β → Prop} {r : Except ScriptError α}
  {f : α → Except ScriptError β}

theorem ok {a : α} (h : P a) : Gives P (.ok a) := fun _ he => by cases he; exact h

theorem bind (hr : Gives P r) (hf : ∀ a, P a → Gives Q (f a)) : Gives Q (r >>= f) := by
  intro b hb
  cases r with
  | ok a => exact hf a (hr a rfl) b hb
  | error e => cases hb

/-- A step whose result does not matter. -/
theorem skip (hf : ∀ a, Gives Q (f a)) : Gives Q (r >>= f) :=
  bind (P := fun _ => True) (fun _ _ => trivial) fun a _ => hf a

end Gives

namespace Arguments

variable (a : Arguments) (index : Nat)

theorem series_gives : Gives (fun s => Value.series s ∈ a.values) (a.series index) := by
  intro s h
  rw [series] at h
  split at h
  · rename_i t ht
    cases h
    exact List.mem_of_getElem? ht
  · cases h
  · cases h

theorem seriesOf_gives (allowed : List Kind) :
    Gives (fun s => Value.series s ∈ a.values) (a.seriesOf allowed index) :=
  (a.series_gives index).bind fun _ mem => .skip fun _ => .ok mem

theorem seriesFrom_gives (kind : Kind) (values : List Value) :
    Gives (fun inputs => ∀ s ∈ inputs, Value.series s ∈ values) (a.seriesFrom kind index values) := by
  induction values generalizing index with
  | nil => exact .ok (by simp)
  | cons v rest ih =>
    cases v with
    | series s =>
      refine .skip fun _ => (ih (index + 1)).bind fun others mem => .ok fun t ht => ?_
      rcases List.mem_cons.mp ht with rfl | ht
      · exact List.mem_cons_self
      · exact List.mem_cons_of_mem _ (mem t ht)
    | _ =>
      intro _ h
      cases h

end Arguments

def Invocation.inputs : Invocation → List Series
  | delta data => [data]
  | accumulate data => [data]
  | derivative data _ => [data]
  | timeBetween data => [data]
  | timeBetween2 data references => [data, references]
  | select _ data _ => [data]
  | merge _ inputs => inputs
  | moving data _ _ => [data]
  | bin data _ _ _ => [data]

open Arguments in
theorem Function.prepare_gives (f : Function) (values : List Value) :
    Gives (fun invocation => ∀ s ∈ invocation.inputs, Value.series s ∈ values)
      (f.prepare values) := by
  have one {s : Series} (mem : Value.series s ∈ values) : ∀ t ∈ [s], Value.series t ∈ values := by
    simpa using mem
  cases f with
  | delta | accumulate =>
    exact (seriesOf_gives _ _ _).bind fun _ mem => .skip fun _ => .ok (one mem)
  | derivative =>
    refine (seriesOf_gives _ _ _).bind fun data mem => .skip fun per => ?_
    cases per.seconds with
    | error fault =>
      intro _ h
      cases h
    | ok seconds => exact .skip fun _ => .ok (one mem)
  | timeBetween =>
    exact (series_gives _ _).bind fun _ mem => .skip fun _ => .ok (one mem)
  | timeBetween2 =>
    refine (series_gives _ _).bind fun data hd => (series_gives _ _).bind fun references hr =>
      .skip fun _ => .ok ?_
    simpa [Invocation.inputs] using ⟨hd, hr⟩
  | filter | exclude =>
    exact (seriesOf_gives _ _ _).bind fun _ mem => .skip fun _ => .ok (one mem)
  | merge =>
    exact .skip fun _ => .skip fun _ => (seriesFrom_gives _ _ _ _).bind fun _ mem => .ok mem
  | moving =>
    exact (seriesOf_gives _ _ _).bind fun _ mem => .skip fun _ => .skip fun _ => .skip fun _ =>
      .skip fun _ => .ok (one mem)
  | bin =>
    exact (seriesOf_gives _ _ _).bind fun _ mem => .skip fun _ => .skip fun _ => .skip fun _ =>
      .skip fun _ => .skip fun _ => .ok (one mem)

theorem Function.eq_bin_of_ofName? {name : String} (h : Function.ofName? name = some .bin) :
    name = "Bin" := by
  have same := List.find?_some h
  exact (beq_iff_eq.mp same).symm

/-- Only `Bin` lays fixed windows. -/
theorem Function.prepare_gives_not_bin (f : Function) (ne : f ≠ .bin) (values : List Value) :
    Gives (fun invocation => ∀ data r window fallback, invocation ≠ .bin data r window fallback)
      (f.prepare values) := by
  cases f with
  | delta | accumulate | timeBetween | filter | exclude =>
    exact .skip fun _ => .skip fun _ => .ok (by simp)
  | derivative =>
    refine .skip fun _ => .skip fun per => ?_
    cases per.seconds with
    | error fault =>
      intro _ h
      cases h
    | ok seconds => exact .skip fun _ => .ok (by simp)
  | timeBetween2 | merge => exact .skip fun _ => .skip fun _ => .skip fun _ => .ok (by simp)
  | moving =>
    exact .skip fun _ => .skip fun _ => .skip fun _ => .skip fun _ => .skip fun _ => .ok (by simp)
  | bin => exact absurd rfl ne

open Series in
/-- What a call makes of its inputs. Most functions give new values to points of one input. -/
theorem Invocation.perform_eq_ok {prefs : Window.Preferences} {hardStart : Option Timestamp}
    {invocation : Invocation} {result : Series}
    (h : invocation.perform prefs hardStart = .ok result) :
    (∃ s ∈ invocation.inputs, (marks result.points).Sublist (marks s.points)) ∨
    result.points = Series.merge (invocation.inputs.map Series.points) ∨
    ∃ data r window fallback bins, invocation = .bin data r window fallback ∧
      Window.fixed window prefs hardStart data.points = .ok bins ∧
      result.points = Bin.reduceAll r fallback bins := by
  cases invocation with
  | delta data =>
    cases h
    have same := marks_differences differenceSeed data.points
    exact .inl ⟨data, List.mem_cons_self, same ▸ .refl _⟩
  | accumulate data =>
    cases h
    have same := marks_runningSums (.ofFloat 0) data.points
    exact .inl ⟨data, List.mem_cons_self, same ▸ .refl _⟩
  | derivative data per =>
    cases h
    have later := (List.tail_sublist data.points).map Point.mark
    exact .inl ⟨data, List.mem_cons_self, (marks_slopes per data.points).trans later⟩
  | timeBetween data =>
    cases h
    exact .inl ⟨data, List.mem_cons_self, marks_gaps data.points⟩
  | timeBetween2 data references =>
    cases h
    exact .inl ⟨data, List.mem_cons_self, marks_timeToReference _ _⟩
  | select keep data labels =>
    cases h
    exact .inl ⟨data, List.mem_cons_self, marks_select keep labels data.points⟩
  | merge kind inputs =>
    cases h
    exact .inr (.inl rfl)
  | moving data r window =>
    cases h
    have bins : (Window.trailing window data.points).map Bin.mark = marks data.points :=
      mark_trailingFrom window [] data.points
    exact .inl ⟨data, List.mem_cons_self, bins ▸ marks_reduceAll r none _⟩
  | bin data r window fallback =>
    simp only [perform] at h
    split at h
    · rename_i bins laid
      cases h
      exact .inr (.inr ⟨data, r, window, fallback, bins, rfl, laid, rfl⟩)
    · cases h

theorem callFunction_eq_ok {prefs : Window.Preferences} {hardStart : Option Timestamp}
    {name : String} {args : List Value} {v : Value}
    (h : callFunction prefs hardStart name args = .ok v) :
    ∃ f invocation s, Function.ofName? name = some f ∧ f.prepare args = .ok invocation ∧
      invocation.perform prefs hardStart = .ok s ∧ v = .series s := by
  rw [callFunction] at h
  split at h
  · cases h
  · rename_i f found
    split at h
    · cases h
    · rename_i invocation prepared
      split at h
      · rename_i s performed
        cases h
        exact ⟨f, invocation, s, found, prepared, performed, rfl⟩
      · cases h

end SeriesScript

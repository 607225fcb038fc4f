import SeriesScript.Proofs.Language.Erasure

/-!
# Programs with other spans

A function on spans carries over to programs: each span becomes its image, and nothing else changes.
To erase all spans is one such function, and to move them down by some lines is another.
-/
namespace SeriesScript

mutual

def Expr.mapSpans (f : Option Span → Option Span) : Expr → Expr
  | .literal value span => .literal value (f span)
  | .reference name span => .reference name (f span)
  | .binary op left right span => .binary op (left.mapSpans f) (right.mapSpans f) (f span)
  | .call function args span => .call function (Expr.mapSpansIn f args) (f span)

def Expr.mapSpansIn (f : Option Span → Option Span) : List Expr → List Expr
  | [] => []
  | e :: es => e.mapSpans f :: Expr.mapSpansIn f es

end

def Statement.mapSpans (f : Option Span → Option Span) : Statement → Statement
  | .declare name value span => .declare name (value.mapSpans f) (f span)
  | .assign name value span => .assign name (value.mapSpans f) (f span)
  | .print value span => .print (value.mapSpans f) (f span)

def Program.mapSpans (f : Option Span → Option Span) (program : Program) : Program :=
  program.map (Statement.mapSpans f)

mutual

def Expr.spans : Expr → List (Option Span)
  | .literal _ span => [span]
  | .reference _ span => [span]
  | .binary _ left right span => span :: (left.spans ++ right.spans)
  | .call _ args span => span :: Expr.spansIn args

def Expr.spansIn : List Expr → List (Option Span)
  | [] => []
  | e :: es => e.spans ++ Expr.spansIn es

end

def Statement.spans (s : Statement) : List (Option Span) := s.span :: s.value.spans

def Program.spans (program : Program) : List (Option Span) := program.flatMap Statement.spans

variable {f g : Option Span → Option Span}

namespace Expr

@[simp] theorem span_mapSpans (e : Expr) : (e.mapSpans f).span = f e.span := by
  cases e <;> rfl

theorem mapSpansIn_eq_map (es : List Expr) : mapSpansIn f es = es.map (mapSpans f) := by
  induction es with
  | nil => rfl
  | cons e es ih => rw [mapSpansIn, ih, List.map_cons]

end Expr

/-! ## No spans -/

mutual

theorem Expr.eraseSpans_eq_mapSpans (e : Expr) : e.eraseSpans = e.mapSpans fun _ => none := by
  match e with
  | .literal _ _ | .reference _ _ => rfl
  | .binary _ left right _ =>
    simp only [Expr.eraseSpans, Expr.mapSpans, Expr.eraseSpans_eq_mapSpans left,
      Expr.eraseSpans_eq_mapSpans right]
  | .call _ args _ => simp only [Expr.eraseSpans, Expr.mapSpans, Expr.eraseSpansIn_eq_mapSpansIn args]

theorem Expr.eraseSpansIn_eq_mapSpansIn (es : List Expr) :
    Expr.eraseSpansIn es = Expr.mapSpansIn (fun _ => none) es := by
  match es with
  | [] => rfl
  | e :: rest =>
    simp only [Expr.eraseSpansIn, Expr.mapSpansIn, Expr.eraseSpans_eq_mapSpans e,
      Expr.eraseSpansIn_eq_mapSpansIn rest]

end

theorem Statement.eraseSpans_eq_mapSpans (s : Statement) :
    s.eraseSpans = s.mapSpans fun _ => none := by
  cases s <;> simp only [eraseSpans, mapSpans, Expr.eraseSpans_eq_mapSpans]

theorem Program.eraseSpans_eq_mapSpans (program : Program) :
    program.eraseSpans = program.mapSpans fun _ => none :=
  List.map_congr_left fun s _ => s.eraseSpans_eq_mapSpans

/-! ## Equal images -/

mutual

theorem Expr.eqOn_spans (e : Expr) (h : e.mapSpans f = e.mapSpans g) :
    ∀ span ∈ e.spans, f span = g span := by
  match e with
  | .literal _ _ | .reference _ _ => simpa [Expr.mapSpans, Expr.spans] using h
  | .binary _ left right _ =>
    simp only [Expr.mapSpans, Expr.binary.injEq, true_and] at h
    simp only [Expr.spans, List.forall_mem_cons, List.forall_mem_append]
    exact ⟨h.2.2, left.eqOn_spans h.1, right.eqOn_spans h.2.1⟩
  | .call _ args _ =>
    simp only [Expr.mapSpans, Expr.call.injEq, true_and] at h
    simp only [Expr.spans, List.forall_mem_cons]
    exact ⟨h.2, Expr.eqOn_spansIn args h.1⟩

theorem Expr.eqOn_spansIn (es : List Expr) (h : Expr.mapSpansIn f es = Expr.mapSpansIn g es) :
    ∀ span ∈ Expr.spansIn es, f span = g span := by
  match es with
  | [] => exact List.forall_mem_nil _
  | e :: rest =>
    obtain ⟨first, others⟩ := List.cons.inj h
    simp only [Expr.spansIn, List.forall_mem_append]
    exact ⟨e.eqOn_spans first, Expr.eqOn_spansIn rest others⟩

end

theorem Statement.eqOn_spans (s : Statement) (h : s.mapSpans f = s.mapSpans g) :
    ∀ span ∈ s.spans, f span = g span := by
  rw [spans, List.forall_mem_cons]
  cases s with
  | declare _ value _ | assign _ value _ =>
    simp only [mapSpans, declare.injEq, assign.injEq, true_and] at h
    exact ⟨h.2, value.eqOn_spans h.1⟩
  | print value _ =>
    simp only [mapSpans, print.injEq] at h
    exact ⟨h.2, value.eqOn_spans h.1⟩

/-- Functions that give the same program agree on its spans. -/
theorem Program.eqOn_spans (program : Program) (h : program.mapSpans f = program.mapSpans g) :
    ∀ span ∈ program.spans, f span = g span := by
  intro span mem
  obtain ⟨s, hs, within⟩ := List.mem_flatMap.mp mem
  exact s.eqOn_spans (List.map_inj_left.mp h s hs) span within

end SeriesScript

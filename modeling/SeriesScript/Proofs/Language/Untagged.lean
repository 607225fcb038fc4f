import SeriesScript.Proofs.Language.Newline
import SeriesScript.Proofs.Language.Relocation

/-!
# Reading without spans

Whether spans are recorded changes nothing else: the same texts are read, with the same faults, and
the programs are the same but for their spans. All spans are recorded or none is.
-/
namespace SeriesScript

namespace Parser

def Relocation.untagged : Relocation true false where
  position := id
  span _ := none
  tag _ _ := rfl
  merge _ _ := rfl

/-- All places become one; a span that is missing is put in. -/
def Relocation.filled (p : Position) : Relocation true true where
  position _ := p
  span _ := some ⟨p, p⟩
  tag _ _ := rfl
  merge _ _ := by simp [Expr.mergeSpans, Span.merge, Position.earlier, Position.later]

/-- All places become one; a span that is missing stays missing. -/
def Relocation.gathered (p : Position) : Relocation true true where
  position _ := p
  span := Option.map fun _ => ⟨p, p⟩
  tag _ _ := rfl
  merge a b := by
    cases a <;> cases b <;>
      simp [Expr.mergeSpans, Span.merge, Position.earlier, Position.later]

variable {tokens : List Located} {p : Program}

/-- The reader takes the same steps if it records no spans. -/
theorem parse_false (ends : ∃ t ∈ tokens, t.token = .eof) :
    parse false tokens = (parse true tokens).map Program.eraseSpans := by
  have moved := Relocation.untagged.read [] .lineStart ends
  have located : tokens.map Relocation.untagged.located = tokens := List.map_id tokens
  rw [located] at moved
  refine (moved : parse false tokens = _).trans ?_
  change Relocation.untagged.outcome (parse true tokens) = _
  cases parse true tokens with
  | ok p => exact congrArg Except.ok p.eraseSpans_eq_mapSpans.symm
  | error e => rfl

/-- The reader leaves out no span. Where all places are one, it cannot tell a program whose missing
spans were put in from one where they were not. -/
theorem isSome_of_mem_spans (ends : ∃ t ∈ tokens, t.token = .eof)
    (h : parse true tokens = .ok p) : ∀ span ∈ p.spans, span.isSome = true := by
  have filled := (Relocation.filled .start).read [] .lineStart ends
  have gathered := (Relocation.gathered .start).read [] .lineStart ends
  have read : read true ⟨[], .lineStart⟩ tokens = .ok p := h
  have same := Except.ok.inj (read ▸ filled.symm.trans gathered)
  intro span mem
  cases span with
  | some => rfl
  | none =>
    have image := p.eqOn_spans same none mem
    simp [Relocation.filled, Relocation.gathered] at image

end Parser

end SeriesScript

import SeriesScript.Proofs.Language.Places
import SeriesScript.Proofs.Language.Viable

/-!
# The first token at fault

The reader refuses a token where no script goes on with it, and it has taken all tokens before it.
The error stands at this token, except behind a name that starts a statement: there a sign of
assignment has to follow, and the error stands at the name.
-/
namespace SeriesScript

open Grammar

namespace Parser

variable {tagged : Bool} {mode : Mode} {s : State} {t : Located} {ts before rest : List Located}
  {us : List Token} {name : String} {span : Span} {e : SyntaxError}

/-! ## What the first tokens of a line leave behind -/

theorem Within.ne_nil {goal : Goal} {frames : List Frame} (h : Within goal frames us) :
    us ≠ [] := by
  cases h with
  | line =>
    obtain ⟨purpose, start⟩ := goal
    cases purpose <;> exact List.cons_ne_nil _ _
  | group | call => simp

theorem line_ne_nil {stmt : Statement} (h : Line us stmt) : us ≠ [] := by
  cases h <;> exact List.cons_ne_nil _ _

namespace Mode.Reads

/-- Only where no statement has begun, nothing was read of the line. -/
theorem eq_lineStart (h : mode.Reads us) (nothing : us = []) : mode = .lineStart := by
  cases h with
  | lineStart => rfl
  | operand within | callee _ _ within | operator _ within =>
    simp only [List.append_eq_nil_iff] at nothing
    simp [within.ne_nil] at nothing
  | arguments within => exact absurd nothing within.ne_nil
  | lineEnd line => exact absurd nothing (line_ne_nil line)
  | _ => cases nothing

theorem eq_nil (h : Mode.lineStart.Reads us) : us = [] := by
  cases h
  rfl

theorem eq_name (h : (Mode.named name span).Reads us) : us = [.identifier name] := by
  cases h
  rfl

end Mode.Reads

/-- Only a name at the start of a line waits to be assigned to. -/
theorem named_of_take? (h : mode.Reads us) (step : mode.take? tagged t = some (.named name span)) :
    mode = .lineStart ∧ t.token = .identifier name ∧ t.span = span := by
  have read := (h.take step).eq_name
  obtain ⟨nothing, token⟩ : us = [] ∧ t.token = .identifier name := by
    simpa [List.append_eq_singleton_iff] using read
  obtain rfl := h.eq_lineStart nothing
  simp only [Mode.take?, token, Option.some.injEq, Mode.named.injEq, true_and] at step
  exact ⟨rfl, token, step⟩

/-! ## Runs -/

/-- The tokens that the reader has taken, and the state that they lead to. -/
inductive Leads (tagged : Bool) : List Located → State → Prop
  | initial : Leads tagged [] .initial
  | take {ts : List Located} {s next : State} {t : Located} (before : Leads tagged ts s)
      (step : s.take? tagged t = some next) : Leads tagged (ts ++ [t]) next

/-- No token stands before, or the last one that does is a newline. -/
def AtLineStart (ts : List Located) : Prop := ∀ t, ts.getLast? = some t → t.token = .newline

theorem take?_eof (eof : t.token = .eof) : s.take? tagged t = none := by
  simp [State.take?, eof, Mode.take?_end (.inr eof)]

theorem read_of_take? {next : State} (step : s.take? tagged t = some next) :
    read tagged s (t :: rest) = read tagged next rest := by
  have noEof : t.token ≠ .eof := fun eof => by simp [take?_eof eof] at step
  simp [read, step]

theorem take?_cases {next : State} (step : s.take? tagged t = some next) :
    (t.token = .newline ∧ next.mode = .lineStart) ∨ s.mode.take? tagged t = some next.mode := by
  unfold State.take? at step
  split at step
  case h_1 newline =>
    obtain ⟨done, -, rfl⟩ := Option.map_eq_some_iff.mp step
    exact .inl ⟨newline, rfl⟩
  case h_2 =>
    obtain ⟨mode, taken, rfl⟩ := Option.map_eq_some_iff.mp step
    exact .inr taken

theorem take?_of_mode {next : Mode} (taken : s.mode.take? tagged t = some next) :
    s.take? tagged t = some ⟨s.program, next⟩ := by
  have inLine : t.token ≠ .newline := fun newline => by simp [Mode.take?_end (.inl newline)] at taken
  simp [State.take?, taken]

theorem State.Reads.exists_current (h : s.Reads us) : ∃ vs, s.mode.Reads vs := by
  obtain ⟨-, current⟩ := h
  exact ⟨_, current⟩

namespace Leads

theorem reads (h : Leads tagged ts s) : s.Reads (ts.map (·.token)) := by
  induction h with
  | initial => exact State.reads_initial
  | take _ step ih =>
    rw [List.map_append]
    exact ih.take step

theorem read_append (h : Leads tagged ts s) (rest : List Located) :
    read tagged .initial (ts ++ rest) = read tagged s rest := by
  induction h generalizing rest with
  | initial => rfl
  | take _ step ih => rw [List.append_assoc, ih, List.singleton_append, read_of_take? step]

theorem exists_current (h : Leads tagged ts s) : ∃ us, s.mode.Reads us := h.reads.exists_current

theorem mode_eq_lineStart_iff (h : Leads tagged ts s) : s.mode = .lineStart ↔ AtLineStart ts := by
  cases h with
  | initial => simp [AtLineStart, State.initial]
  | @take ts s next t before step =>
    rw [AtLineStart, List.getLast?_concat]
    rcases take?_cases step with ⟨newline, start⟩ | taken
    · simp [newline, start]
    · obtain ⟨us, current⟩ := before.exists_current
      constructor
      · intro start
        have read := (start ▸ current.take taken).eq_nil
        simp at read
      · intro newline
        simp [Mode.take?_end (.inl (newline t rfl))] at taken

theorem of_named (h : Leads tagged ts s) (named : s.mode = .named name span) :
    ∃ before t, ts = before ++ [t] ∧ t.token = .identifier name ∧ t.span = span ∧
      AtLineStart before := by
  cases h with
  | initial => cases named
  | @take ts s next t before step =>
    rcases take?_cases step with ⟨-, start⟩ | taken
    · cases start.symm.trans named
    · obtain ⟨us, current⟩ := before.exists_current
      rw [named] at taken
      obtain ⟨start, token, place⟩ := named_of_take? current taken
      exact ⟨ts, t, rfl, token, place, before.mode_eq_lineStart_iff.mp start⟩

end Leads

/-! ## Refusals -/

/-- The token is not taken, neither within the line nor as its end. -/
def Mode.Refuses (tagged : Bool) (mode : Mode) (t : Located) : Prop :=
  mode.take? tagged t = none ∧ (t.token = .newline ∨ t.token = .eof → mode.endLine? tagged = none)

theorem Leads.not_viable (h : Leads tagged before s) (refused : s.mode.Refuses tagged t) :
    ¬ Viable ((before ++ [t]).map (·.token)) := by
  rintro ⟨us, q, script⟩
  have tokens : (before ++ t :: unlocated us).map (·.token) =
      (before ++ [t]).map (·.token) ++ us := by
    simp
  obtain ⟨p, accepted, -⟩ := parse_of_script tagged script tokens
  obtain ⟨program, mode⟩ := s
  rw [parse, h.read_append, read_cons_refused refused.1 refused.2] at accepted
  cases accepted

/-- Tokens that are not read have one that is refused, behind others that are taken. -/
theorem Leads.exists_refused (h : Leads tagged ts s) (ends : ∃ t ∈ rest, t.token = .eof)
    (failed : read tagged s rest = .error e) :
    ∃ before t after s', ts ++ rest = before ++ t :: after ∧ Leads tagged before s' ∧
      s'.mode.Refuses tagged t ∧ e = s'.mode.refuse t := by
  induction rest generalizing ts s with
  | nil => simp at ends
  | cons t rest ih =>
    cases step : s.take? tagged t with
    | some next =>
      have others : ∃ u ∈ rest, u.token = .eof := by
        obtain ⟨u, mem, eof⟩ := ends
        rcases List.mem_cons.mp mem with rfl | mem
        · simp [take?_eof eof] at step
        · exact ⟨u, mem, eof⟩
      rw [read_of_take? step] at failed
      simpa using ih (h.take step) others failed
    | none =>
      obtain ⟨program, mode⟩ := s
      rcases read_cases tagged mode t with ⟨eof, done, ended⟩ | ⟨newline, done, ended⟩ |
        ⟨next, taken⟩ | refused
      · rw [read_cons_eof eof ended] at failed
        cases failed
      · simp [State.take?, newline, ended] at step
      · simp [take?_of_mode (s := ⟨program, mode⟩) taken] at step
      · rw [read_cons_refused refused.1 refused.2] at failed
        exact ⟨ts, t, rest, _, rfl, h, refused, (Except.error.inj failed).symm⟩

/-- Except behind a name that starts a statement, the error stands at the refused token. -/
theorem Mode.refuse_position (mode : Mode) (t : Located) :
    (mode.refuse t).position = t.span.start ∨
      ∃ name span, mode = .named name span ∧ (mode.refuse t).position = span.start := by
  cases mode with
  | named name span => exact .inr ⟨name, span, rfl, rfl⟩
  | arguments goal frames c =>
    left
    rw [refuse]
    split <;> rfl
  | _ => exact .inl rfl

end Parser

open SeriesScript.Parser

def IsLeadingName (before : List Located) (t : Located) : Prop :=
  AtLineStart before ∧ ∃ name, t.token = .identifier name

/-- The tokens before this one begin a script. With it they no longer do; but if it is a name that
starts a statement, they no longer do with the token behind it. -/
structure FirstAtFault (before : List Located) (t : Located) (after : List Located) : Prop where
  begun : Viable (before.map (·.token))
  ofName : IsLeadingName before t → Viable ((before ++ [t]).map (·.token)) ∧
    ∃ next rest, after = next :: rest ∧ ¬ Viable ((before ++ [t, next]).map (·.token))
  ofOther : ¬ IsLeadingName before t → ¬ Viable ((before ++ [t]).map (·.token))

theorem Parser.exists_firstAtFault {tagged : Bool} {tokens : List Located} {e : SyntaxError}
    (ends : ∃ t ∈ tokens, t.token = .eof) (failed : parse tagged tokens = .error e) :
    ∃ before t after, tokens = before ++ t :: after ∧ t.span.start = e.position ∧
      FirstAtFault before t after := by
  obtain ⟨taken, u, after, s, rfl, leads, refused, rfl⟩ := Leads.initial.exists_refused ends failed
  have begun := leads.reads.viable
  have dead := leads.not_viable refused
  rcases s.mode.refuse_position u with position | ⟨name, span, named, position⟩
  · refine ⟨taken, u, after, rfl, position.symm, begun, fun ⟨start, name, token⟩ => ?_, fun _ => dead⟩
    have taken : s.mode.take? tagged u = some (.named name u.span) := by
      rw [leads.mode_eq_lineStart_iff.mpr start]
      simp [Mode.take?, token]
    cases refused.1.symm.trans taken
  · obtain ⟨before, t, rfl, token, rfl, start⟩ := leads.of_named named
    have shorter : Viable (before.map (·.token)) := Viable.left (by rwa [List.map_append] at begun)
    refine ⟨before, t, u :: after, List.append_assoc .., position.symm, shorter,
      fun _ => ⟨begun, u, after, rfl, ?_⟩, fun other => absurd ⟨start, name, token⟩ other⟩
    simpa using dead

/-- A text that has tokens but is no script has a first token at fault, and its error stands there,
and at the start of no other token. -/
theorem Program.firstAtFault_of_parse (source : String) (tagged : Bool) (tokens : List Located)
    (e : SyntaxError) (tokenized : Lexer.tokenize source = .ok tokens)
    (failed : Program.parse source tagged = .error e) :
    ∃ before t after, tokens = before ++ t :: after ∧ t.span.start = e.position ∧
      (∀ other ∈ before ++ after, other.span.start ≠ e.position) ∧
      FirstAtFault before t after := by
  rw [parse, tokenized] at failed
  obtain ⟨before, t, after, rfl, position, fault⟩ :=
    exists_firstAtFault (Lexer.exists_eof_of_tokenize tokenized) failed
  refine ⟨before, t, after, rfl, position, ?_, fault⟩
  have distinct : (t :: (before ++ after)).Pairwise fun a b => a.span.start ≠ b.span.start :=
    ((Lexer.starts_of_tokenize tokenized).imp fun lt => lt.ne).perm List.perm_middle
      fun ne => ne.symm
  rw [← position]
  exact fun other mem => (List.rel_of_pairwise_cons distinct mem).symm

def strayName : String := "var a = (1 + 2)\nb 3"

theorem Program.firstAtFault_of_parse_strayName :
    ∃ tokens e, Lexer.tokenize strayName = .ok tokens ∧
      Program.parse strayName true = .error e ∧ e.position = ⟨2, 0⟩ ∧
      ∃ before t after, tokens = before ++ t :: after ∧ t.span.start = ⟨2, 0⟩ ∧
        FirstAtFault before t after := by
  have cuts : (Lexer.tokenize strayName).toOption.isSome := by decide +kernel
  have place : (match Program.parse strayName true with
      | .error e => some e.position
      | .ok _ => none) = some ⟨2, 0⟩ := by
    decide +kernel
  cases tokenized : Lexer.tokenize strayName with
  | error e =>
    rw [tokenized] at cuts
    cases cuts
  | ok tokens =>
    cases failed : Program.parse strayName true with
    | ok program =>
      rw [failed] at place
      cases place
    | error e =>
      rw [failed] at place
      have position : e.position = ⟨2, 0⟩ := Option.some.inj place
      obtain ⟨before, t, after, split, stands, -, fault⟩ :=
        firstAtFault_of_parse strayName true tokens e tokenized failed
      exact ⟨tokens, e, rfl, rfl, position, before, t, after, split, stands.trans position, fault⟩

end SeriesScript

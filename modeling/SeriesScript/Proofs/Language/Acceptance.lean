import SeriesScript.Proofs.Language.Completeness
import SeriesScript.Proofs.Language.Soundness

/-!
# The reader accepts the grammar

A list of tokens is read exactly if it is a script, and the program is the tree of its derivation.
The reader is a function, so the grammar is unambiguous.
-/
namespace SeriesScript.Parser

open Grammar

variable {tagged : Bool} {us : List Token} {ts : List Located}

theorem taken_of_line {stmt : Statement} (h : Line us stmt) (tokens : ts.map (·.token) = us) :
    ∃ mode s, Mode.lineStart.takeAll? tagged ts = some mode ∧
      mode.endLine? tagged = some [s] ∧ s.eraseSpans = stmt := by
  cases h with
  | declare name value =>
    obtain ⟨word, _, rfl, wordToken, tokens⟩ := List.map_eq_cons_iff.mp tokens
    obtain ⟨target, _, rfl, targetToken, tokens⟩ := List.map_eq_cons_iff.mp tokens
    obtain ⟨sign, rest, rfl, signToken, tokens⟩ := List.map_eq_cons_iff.mp tokens
    obtain ⟨mode, sum, term, taken, behind, rfl⟩ :=
      taken_of_sum tagged value ⟨.declare name, word.span.start⟩ [] rest tokens
    obtain ⟨stop, ends⟩ := behind.endLine?
    refine ⟨mode, _, ?_, ends, rfl⟩
    simpa [Mode.take?, wordToken, targetToken, signToken] using taken
  | assign name value =>
    obtain ⟨target, _, rfl, targetToken, tokens⟩ := List.map_eq_cons_iff.mp tokens
    obtain ⟨sign, rest, rfl, signToken, tokens⟩ := List.map_eq_cons_iff.mp tokens
    obtain ⟨mode, sum, term, taken, behind, rfl⟩ :=
      taken_of_sum tagged value ⟨.assign name, target.span.start⟩ [] rest tokens
    obtain ⟨stop, ends⟩ := behind.endLine?
    refine ⟨mode, _, ?_, ends, rfl⟩
    simpa [Mode.take?, targetToken, signToken] using taken
  | print value =>
    obtain ⟨word, _, rfl, wordToken, tokens⟩ := List.map_eq_cons_iff.mp tokens
    obtain ⟨bracket, _, rfl, bracketToken, tokens⟩ := List.map_eq_cons_iff.mp tokens
    obtain ⟨inner, _, rfl, innerTokens, tokens⟩ := List.map_eq_append_iff.mp tokens
    obtain ⟨last, rfl, lastToken⟩ := List.map_eq_singleton_iff.mp tokens
    let goal : Goal := ⟨.print, word.span.start⟩
    obtain ⟨mode, sum, term, taken, behind, rfl⟩ := taken_of_sum tagged value goal [] inner innerTokens
    let s := goal.statement tagged (joinWaiting sum term) last.span.stop
    have closed : mode.take? tagged last = some (.lineEnd s) := by
      rw [behind.take? (by simp [lastToken])]
      simp only [continueExpr, lastToken, goal, s]
    refine ⟨.lineEnd s, s, ?_, rfl, rfl⟩
    have opened : Mode.lineStart.takeAll? tagged [word, bracket] =
        some (.operand goal [] .empty) := by
      simp [Mode.take?, wordToken, bracketToken, goal]
    have split : word :: bracket :: (inner ++ [last]) = [word, bracket] ++ (inner ++ [last]) := rfl
    rw [split, Mode.takeAll?_append, opened, Option.bind_some, Mode.takeAll?_append, taken,
      Option.bind_some, Mode.takeAll?_singleton, closed]

theorem newline_of_mem_newlines {n : Nat} (tokens : ts.map (·.token) = newlines n) :
    ∀ t ∈ ts, t.token = .newline :=
  List.forall_mem_map.mp (List.eq_replicate_iff.mp tokens).2

/-- Lines are read up to the end of the last one, whose statement is complete there. -/
theorem read_of_lines (tagged : Bool) {q : Program} (h : Lines us q) (p : Program)
    (tokens : ts.map (·.token) = us) :
    ∃ p' mode s, (∀ rest, read tagged ⟨p, .lineStart⟩ (ts ++ rest) =
        read tagged ⟨p ++ p', mode⟩ rest) ∧
      mode.endLine? tagged = some [s] ∧ Program.eraseSpans (p' ++ [s]) = q := by
  induction h generalizing ts with
  | one line =>
    obtain ⟨mode, s, taken, ends, rfl⟩ := taken_of_line line tokens
    refine ⟨[], mode, s, fun rest => ?_, ends, rfl⟩
    rw [read_append taken, List.append_nil]
  | more n init last ih =>
    obtain ⟨_, final, rfl, tokens, finalTokens⟩ := List.map_eq_append_iff.mp tokens
    obtain ⟨before, _, rfl, beforeTokens, tokens⟩ := List.map_eq_append_iff.mp tokens
    obtain ⟨t, blank, rfl, newline, blankTokens⟩ := List.map_eq_cons_iff.mp tokens
    obtain ⟨p', mode, s, reads, ends, erased⟩ := ih beforeTokens
    obtain ⟨next, s', taken, ends', rfl⟩ := taken_of_line last finalTokens
    refine ⟨p' ++ [s], next, s', fun rest => ?_, ends', ?_⟩
    · calc read tagged ⟨p, .lineStart⟩ (before ++ t :: blank ++ final ++ rest)
          = read tagged ⟨p ++ p', mode⟩ (t :: (blank ++ (final ++ rest))) := by
            rw [← reads, List.append_assoc, List.append_assoc, List.cons_append]
        _ = read tagged ⟨p ++ p' ++ [s], .lineStart⟩ (final ++ rest) := by
            rw [read_cons_newline newline ends, read_newlines (newline_of_mem_newlines blankTokens)]
        _ = read tagged ⟨p ++ (p' ++ [s]), next⟩ rest := by
            rw [read_append taken, List.append_assoc]
    · rw [Program.eraseSpans_append, erased, Program.eraseSpans_singleton]

theorem parse_of_script (tagged : Bool) {q : Program} (h : Script us q) (tokens : ts.map (·.token) = us) :
    ∃ p, parse tagged ts = .ok p ∧ p.eraseSpans = q := by
  cases h with
  | empty n =>
    obtain ⟨blank, _, rfl, blankTokens, tokens⟩ := List.map_eq_append_iff.mp tokens
    obtain ⟨last, rfl, eof⟩ := List.map_eq_singleton_iff.mp tokens
    refine ⟨[], ?_, rfl⟩
    rw [parse, State.initial, read_newlines (newline_of_mem_newlines blankTokens)]
    exact read_cons_eof eof rfl
  | lines m n lines =>
    obtain ⟨_, final, rfl, linesTokens, finalTokens⟩ := List.map_eq_append_iff.mp tokens
    obtain ⟨last, rfl, eof⟩ := List.map_eq_singleton_iff.mp finalTokens
    obtain ⟨_, after, rfl, leadTokens, afterTokens⟩ := List.map_eq_append_iff.mp linesTokens
    obtain ⟨before, body, rfl, beforeTokens, bodyTokens⟩ := List.map_eq_append_iff.mp leadTokens
    obtain ⟨p, mode, s, reads, ends, erased⟩ := read_of_lines tagged lines [] bodyTokens
    refine ⟨p ++ [s], ?_, erased⟩
    rw [parse, State.initial, List.append_assoc, List.append_assoc,
      read_newlines (newline_of_mem_newlines beforeTokens), reads]
    cases after with
    | nil => exact read_cons_eof eof ends
    | cons t blank =>
      obtain ⟨newline, blankNewlines⟩ :=
        List.forall_mem_cons.mp (newline_of_mem_newlines afterTokens)
      rw [List.cons_append, read_cons_newline newline ends, read_newlines blankNewlines,
        read_cons_eof eof rfl, List.append_nil, List.nil_append]

def unlocated (us : List Token) : List Located := us.map (⟨·, .unknown⟩)

@[simp] theorem map_token_unlocated (us : List Token) : (unlocated us).map (·.token) = us := by
  rw [unlocated, List.map_map]
  exact List.map_id us

/-- A script has one derivation tree: the one that the reader gives. -/
theorem script_unique {p q : Program} (h : Script us p) (h' : Script us q) : p = q := by
  obtain ⟨p', read, rfl⟩ := parse_of_script false h (map_token_unlocated us)
  obtain ⟨q', read', rfl⟩ := parse_of_script false h' (map_token_unlocated us)
  have same : p' = q' := Except.ok.inj (read.symm.trans read')
  rw [same]

def EndsOnce (tokens : List Located) : Prop :=
  ∃ body last, tokens = body ++ [last] ∧ last.token = .eof ∧ ∀ t ∈ body, t.token ≠ .eof

theorem script_of_parse {p : Program} (ends : EndsOnce ts) (h : parse tagged ts = .ok p) :
    Script (ts.map (·.token)) p.eraseSpans := by
  obtain ⟨body, last, rfl, eof, inside⟩ := ends
  have script := script_of_read inside eof (.blank 0) .lineStart h
  simpa [newlines, eof] using script

/-- The reader gives a program exactly if the tokens derive it, spans aside, and refuses every
other list of tokens. -/
theorem parse_iff_script (tagged : Bool) (tokens : List Located) (ends : EndsOnce tokens) :
    (∀ q, (∃ p, parse tagged tokens = .ok p ∧ p.eraseSpans = q) ↔
      Script (tokens.map (·.token)) q) ∧
    ((∀ q, ¬ Script (tokens.map (·.token)) q) → ∃ e, parse tagged tokens = .error e) := by
  constructor
  · intro q
    constructor
    · rintro ⟨p, read, rfl⟩
      exact script_of_parse ends read
    · intro script
      exact parse_of_script tagged script rfl
  · intro noScript
    cases read : parse tagged tokens with
    | error e => exact ⟨e, rfl⟩
    | ok p => exact absurd (script_of_parse ends read) (noScript _)

def twoLines : List Token :=
  [.var, .identifier "x", .assign, .leftParen, .integer 1, .plus, .integer 2, .rightParen, .star,
    .identifier "f", .leftParen, .integer 3, .comma, .rightParen, .newline, .newline,
    .print, .leftParen, .identifier "x", .rightParen, .eof]

theorem parse_iff_script_twoLines :
    EndsOnce (unlocated twoLines) ∧
      Script twoLines
        [.declare "x"
          (.binary .multiply
            (.binary .add (.literal (.integer 1) none) (.literal (.integer 2) none) none)
            (.call "f" [.literal (.integer 3) none] none) none) none,
          .print (.reference "x" none) none] := by
  have ends : EndsOnce (unlocated twoLines) :=
    ⟨unlocated twoLines.dropLast, ⟨.eof, .unknown⟩, rfl, rfl, by simp [unlocated, twoLines]⟩
  have script := ((parse_iff_script false (unlocated twoLines) ends).1 _).mp ⟨_, rfl, rfl⟩
  exact ⟨ends, script⟩

end SeriesScript.Parser

import SeriesScript.Proofs.Language.LineBreaks
import SeriesScript.Proofs.Language.Nesting

/-!
# One statement on a line

Between the tokens of a statement there is no newline token, and behind each statement but the last
there is one. So statements stand on later and later lines, and a statement that goes on on a next
line does so in a quoted text, behind a backslash.
-/
namespace SeriesScript

/-! ## No newline in a statement -/

namespace Derivation

variable {parts : List Part} {ts : List Located} {e : Expr} {s : Statement} {p : Program}

theorem Followed.mem (h : Followed parts ts) :
    ∀ t ∈ ts, t.token = .comma ∨ ∃ part ∈ parts, t ∈ part.tokens := by
  induction h with
  | none => exact List.forall_mem_nil _
  | part init last sign ih =>
    refine List.forall_mem_append.mpr ⟨List.forall_mem_append.mpr ⟨fun t mem => ?_, ?_⟩, ?_⟩
    · exact (ih t mem).imp_right fun ⟨arg, here, within⟩ =>
        ⟨arg, List.mem_append_left _ here, within⟩
    · exact fun t mem => .inr ⟨last, List.mem_append_right _ (List.mem_singleton_self _), mem⟩
    · exact List.forall_mem_singleton.mpr (.inl sign)

theorem Listed.mem (h : Listed parts ts) :
    ∀ t ∈ ts, t.token = .comma ∨ ∃ part ∈ parts, t ∈ part.tokens := by
  cases h with
  | followed h => exact h.mem
  | last init last =>
    refine List.forall_mem_append.mpr ⟨fun t mem => ?_, fun t mem => ?_⟩
    · exact (init.mem t mem).imp_right fun ⟨arg, here, within⟩ =>
        ⟨arg, List.mem_append_left _ here, within⟩
    · exact .inr ⟨last, List.mem_append_right _ (List.mem_singleton_self _), mem⟩

theorem Derives.ne_newline (h : Derives ts e) : ∀ t ∈ ts, t.token ≠ .newline := by
  induction h with
  | literal literal =>
    refine List.forall_mem_singleton.mpr fun newline => ?_
    simp [newline, Parser.literalOf?] at literal
  | reference named => exact List.forall_mem_singleton.mpr (by simp [named])
  | group left inner right ih =>
    simp only [List.forall_mem_cons, List.forall_mem_append]
    exact ⟨by simp [left], ih, by simp [right]⟩
  | @operation ts us sign e f op left operator right ihLeft ihRight =>
    simp only [List.forall_mem_cons, List.forall_mem_append]
    refine ⟨ihLeft, ?_, ihRight⟩
    cases op <;> simp [operator, BinaryOp.token]
  | @call name opens closes function parts inner callee left args each right ih =>
    simp only [List.forall_mem_cons, List.forall_mem_append]
    refine ⟨by simp [callee], by simp [left], fun t mem => ?_, by simp [right]⟩
    rcases args.mem t mem with comma | ⟨part, here, within⟩
    · simp [comma]
    · exact ih part here t within

theorem DerivesLine.ne_newline (h : DerivesLine ts s) : ∀ t ∈ ts, t.token ≠ .newline := by
  cases h with
  | declare keyword named assign value ends =>
    simp only [List.forall_mem_cons]
    exact ⟨by simp [keyword], by simp [named], by simp [assign], value.ne_newline⟩
  | assign named assign value ends =>
    simp only [List.forall_mem_cons]
    exact ⟨by simp [named], by simp [assign], value.ne_newline⟩
  | print keyword left value right =>
    simp only [List.forall_mem_cons, List.forall_mem_append]
    exact ⟨by simp [keyword], by simp [left], value.ne_newline, by simp [right]⟩

theorem DerivesLines.exists_line (h : DerivesLines ts p) :
    ∀ s ∈ p, ∃ us, us <:+: ts ∧ DerivesLine us s := by
  induction h with
  | none => exact List.forall_mem_nil _
  | last line => exact List.forall_mem_singleton.mpr ⟨_, List.infix_rfl, line⟩
  | @blank newline ts p ends rest ih =>
    intro s mem
    obtain ⟨us, inside, line⟩ := ih s mem
    exact ⟨us, inside.trans (List.suffix_cons newline ts).isInfix, line⟩
  | @line newline ts us s p line ends rest ih =>
    have behind : us <:+ ts ++ newline :: us := ⟨ts ++ [newline], by simp⟩
    refine List.forall_mem_cons.mpr ⟨⟨ts, (List.prefix_append _ _).isInfix, line⟩, fun s mem => ?_⟩
    obtain ⟨vs, inside, line⟩ := ih s mem
    exact ⟨vs, inside.trans behind.isInfix, line⟩

/-! ## A newline behind a statement -/

def BreaksLines (ts : List Located) : Prop :=
  ts.Pairwise fun a b => a.token = .newline → a.span.start.line < b.span.start.line

theorem DerivesLines.later {source : String} (h : DerivesLines ts p) (laid : LaidOut source ts)
    (breaks : BreaksLines ts) :
    p.Pairwise fun a b => Related (fun a b => a.stop.line < b.start.line) a.span b.span := by
  induction h with
  | none => exact .nil
  | last line => exact List.pairwise_singleton _ _
  | @blank newline ts p ends rest ih =>
    have behind : ts <:+ newline :: ts := List.suffix_cons newline ts
    exact ih (laid.sublist behind.sublist) (breaks.sublist behind.sublist)
  | @line newline ts us s p line ends rest ih =>
    have behind : us <:+ ts ++ newline :: us := ⟨ts ++ [newline], by simp⟩
    have laidBehind := laid.sublist behind.sublist
    refine .cons (fun s' mem => ?_) (ih laidBehind (breaks.sublist behind.sublist))
    obtain ⟨a, recorded, -, -, u, hu, high⟩ := (line.fits laid.left List.infix_rfl).1
    obtain ⟨b, recorded', -, ⟨v, hv, low⟩, -⟩ :=
      ((rest.fit laidBehind List.infix_rfl).1 s' mem).1
    refine ⟨a, b, recorded, recorded', ?_⟩
    have before : u.span.stop ≤ newline.span.start :=
      laid.across u hu newline List.mem_cons_self
    have next : newline.span.start.line < v.span.start.line :=
      List.rel_of_pairwise_cons (List.pairwise_append.mp breaks).2.1 hv ends
    calc a.stop.line ≤ newline.span.start.line := Position.line_le_of_le (high.trans before)
      _ < v.span.start.line := next
      _ ≤ b.start.line := Position.line_le_of_le low

end Derivation

/-! ## The text of a statement -/

namespace Lexer

variable {pieces : List Piece} {ts : List Located} {span : Span}

theorem locateLexemes_breaksLines (p : Position)
    (keeps : ∀ piece ∈ pieces, KeepsLine piece.lexeme piece.token) :
    Derivation.BreaksLines (locateLexemes p pieces) := by
  induction pieces generalizing p with
  | nil => exact .nil
  | cons piece pieces ih =>
    obtain ⟨first, others⟩ := List.forall_mem_cons.mp keeps
    refine .cons (fun t mem newline => ?_) (ih _ others)
    have lexeme : piece.lexeme = ['\n'] := by
      rw [KeepsLine, if_pos (Token.isNewline_iff.mpr newline)] at first
      exact first
    have behind := Position.line_le_of_le (le_start_of_mem mem)
    rw [lexeme, Position.line_after] at behind
    exact Nat.lt_of_succ_le behind

/-- Pieces without a newline token have a newline only where a backslash takes it into a quoted
text. -/
theorem escapesBreak_textOf (gaps : ∀ piece ∈ pieces, '\n' ∉ piece.gap)
    (keeps : ∀ piece ∈ pieces, KeepsLine piece.lexeme piece.token)
    (inLine : ∀ piece ∈ pieces, piece.token ≠ .newline) (mem : '\n' ∈ textOf pieces) :
    EscapesBreak (textOf pieces) := by
  obtain ⟨piece, here, within⟩ := List.mem_flatMap.mp mem
  have lexeme : '\n' ∈ piece.lexeme := (List.mem_append.mp within).resolve_left (gaps piece here)
  have keep := keeps piece here
  rw [KeepsLine, if_neg fun newline => inLine piece here (Token.isNewline_iff.mp newline)] at keep
  refine (keep lexeme).2.mono ?_
  obtain ⟨before, behind, rfl⟩ := List.append_of_mem here
  refine ⟨textOf before ++ piece.gap, textOf behind, ?_⟩
  simp [textOf_append, Piece.text]

/-- Some tokens in a row, none of them a newline, come from pieces in a row, and reach from the
first lexeme of these to the end of the last one. -/
theorem exists_pieces_of_covers (inside : ts <:+: locateLexemes .start pieces)
    (covers : Derivation.Covers ts span) (inLine : ∀ t ∈ ts, t.token ≠ .newline) :
    ∃ ps piece qs rest, pieces = ps ++ (piece :: qs) ++ rest ∧
      span = ⟨Position.start.after (textOf ps ++ piece.gap),
        Position.start.after (textOf ps ++ textOf (piece :: qs))⟩ ∧
      ∀ q ∈ piece :: qs, q.token ≠ .newline := by
  obtain ⟨us, vs, split⟩ := inside
  obtain ⟨ps, rest, rfl, above, -⟩ := exists_pieces split.symm
  obtain ⟨ps, qs, rfl, -, rfl⟩ := exists_pieces above.symm
  obtain ⟨first, others, starts, start, init, t, ends, stop⟩ := covers
  cases qs with
  | nil => cases starts
  | cons piece qs =>
    have lastMem : t ∈ init ++ [t] := List.mem_append_right init (List.mem_singleton_self t)
    have lastStop := stop_of_last ends (inLine t (ends ▸ lastMem))
    refine ⟨ps, piece, qs, rest, rfl, ?_, fun q mem => ?_⟩
    · rw [Position.after_append, Position.after_append, ← lastStop, stop]
      obtain ⟨rfl, -⟩ := List.cons.inj starts
      cases span
      cases start
      rfl
    · obtain ⟨t, here, token⟩ := exists_token_of_mem mem (Position.start.after (textOf ps))
      exact token ▸ inLine t here

/-- The text from the first to the last of some tokens in a row, none of them a newline. -/
theorem exists_text_of_covers (inside : ts <:+: locateLexemes .start pieces)
    (covers : Derivation.Covers ts span) (inLine : ∀ t ∈ ts, t.token ≠ .newline)
    (gaps : ∀ piece ∈ pieces, '\n' ∉ piece.gap)
    (keeps : ∀ piece ∈ pieces, KeepsLine piece.lexeme piece.token) :
    ∃ before text behind, textOf pieces = before ++ text ++ behind ∧
      span = ⟨Position.start.after before, Position.start.after (before ++ text)⟩ ∧
      ('\n' ∈ text → EscapesBreak text) := by
  obtain ⟨ps, piece, qs, rest, rfl, rfl, tokens⟩ := exists_pieces_of_covers inside covers inLine
  have among : ∀ q ∈ piece :: qs, q ∈ ps ++ (piece :: qs) ++ rest := fun q mem =>
    List.mem_append_left rest (List.mem_append_right ps mem)
  obtain ⟨-, behindGaps⟩ := List.forall_mem_cons.mp fun q mem => gaps q (among q mem)
  have lineKeeps := List.forall_mem_cons.mp fun q mem => keeps q (among q mem)
  let line : List Piece := ⟨[], piece.lexeme, piece.token⟩ :: qs
  refine ⟨textOf ps ++ piece.gap, textOf line, textOf rest, ?_, ?_, escapesBreak_textOf ?_ ?_ ?_⟩
  · simp [line, textOf_append, Piece.text]
  · simp [line, Piece.text]
  · exact List.forall_mem_cons.mpr ⟨List.not_mem_nil, behindGaps⟩
  · exact List.forall_mem_cons.mpr lineKeeps
  · exact List.forall_mem_cons.mpr (List.forall_mem_cons.mp tokens)

end Lexer

open SeriesScript.Lexer

theorem Lexer.EscapesBreak.newline_mem {text : List Char} (h : EscapesBreak text) : '\n' ∈ text :=
  h.subset (by simp)

/-- The lines of the statements of a program, and of the text that each of them spans. -/
theorem Program.lines_of_parse {source : String} {program : Program}
    (h : Program.parse source true = .ok program) :
    (∀ s ∈ program, ∃ span, s.span = some span ∧
      (span.start.line = span.stop.line ↔ ¬ EscapesBreak (span.chars source))) ∧
    program.Pairwise fun a b =>
      Related (fun a b => a.stop.line < b.start.line) a.span b.span := by
  rw [Program.parse] at h
  cases read : tokenize source with
  | error e => simp [read] at h
  | ok tokens =>
    rw [read] at h
    obtain ⟨pieces, last, stop, hc, rfl, -, ends, inside, laid⟩ := exists_cut_of_tokenize read
    obtain ⟨whole, gaps, -⟩ := cut_partition hc
    have keeps := forall_piece_of_cut (fun _ _ _ => keepsLine_of_readLexeme) hc
    have lines := Derivation.derivesLines_of_parse inside ends h
    refine ⟨fun s mem => ?_, lines.later laid (locateLexemes_breaksLines .start keeps)⟩
    obtain ⟨us, among, line⟩ := lines.exists_line s mem
    obtain ⟨_, -, recorded, covers, -⟩ := line.covers
    obtain ⟨before, text, behind, split, rfl, broken⟩ :=
      exists_text_of_covers among covers line.ne_newline (newline_not_mem_gap gaps) keeps
    refine ⟨_, recorded, ?_⟩
    have chars := Span.charsFrom_between .start before text (behind ++ last)
    rw [← List.append_assoc, ← split, whole] at chars
    rw [Span.chars, chars, Position.after_append, Position.line_after _ text, Nat.left_eq_add,
      List.count_eq_zero]
    exact ⟨fun none escaped => none escaped.newline_mem, fun none mem => none (broken mem)⟩

/-- There is one statement on a line. Statements stand on later and later lines; each of them ends
on the line that it starts on, and each token but a newline has no newline in it, with one
exception: a backslash takes a newline into a quoted text. A quote that is not closed on its line is
refused, if no backslash stands at the end of the line. -/
theorem Program.oneLine (source : String) :
    (∀ program, Program.parse source true = .ok program →
      (∀ s ∈ program, ∃ span, s.span = some span ∧
        (span.start.line = span.stop.line ↔ ¬ EscapesBreak (span.chars source))) ∧
      program.Pairwise fun a b =>
        Related (fun a b => a.stop.line < b.start.line) a.span b.span) ∧
    (∀ tokens, tokenize source = .ok tokens → ∀ t ∈ tokens, '\n' ∈ t.span.chars source →
      t.token = .newline ∨ (∃ s, t.token = .text s) ∧ EscapesBreak (t.span.chars source)) ∧
    ∀ above quote rest pieces last, source.toList = above ++ quote :: rest →
      (quote = '"' ∨ quote = '\'') → cut above = .ok (pieces, last) → '#' ∉ last →
      ¬ ClosesOnLine quote rest → ¬ EscapesLineEnd quote rest →
      ∀ tagged, Program.parse source tagged =
        .error ⟨.unterminatedText, Position.start.after above⟩ := by
  refine ⟨fun program => lines_of_parse, fun tokens => token_of_newline_mem, ?_⟩
  intro above quote rest pieces last text quotes read inLine unclosed unescaped tagged
  rw [parse, tokenize_unterminated text quotes read inLine unclosed unescaped]

/-- A quoted text that goes on on the next line, behind a backslash. -/
def carriedOn : String := "var x = \"a\\\nb\""

def leftOpen : String := "x = 'a\nprint(x)"

theorem Program.oneLine_leftOpen :
    (∃ program, Program.parse (carriedOn ++ "\nprint(x)") true = .ok program ∧
      program.map Statement.span = [some ⟨⟨1, 0⟩, ⟨2, 2⟩⟩, some ⟨⟨3, 0⟩, ⟨3, 8⟩⟩] ∧
      program.Pairwise fun a b =>
        Related (fun a b => a.stop.line < b.start.line) a.span b.span) ∧
    (∃ tokens, tokenize carriedOn = .ok tokens ∧ ∃ t ∈ tokens, t.span = ⟨⟨1, 8⟩, ⟨2, 2⟩⟩ ∧
      (t.token = .newline ∨ (∃ s, t.token = .text s) ∧ EscapesBreak (t.span.chars carriedOn))) ∧
    Program.parse leftOpen true = .error ⟨.unterminatedText, ⟨1, 4⟩⟩ := by
  refine ⟨?_, ?_, ?_⟩
  · have spans :
        (Program.parse (carriedOn ++ "\nprint(x)") true).toOption.map (·.map Statement.span) =
          some [some ⟨⟨1, 0⟩, ⟨2, 2⟩⟩, some ⟨⟨3, 0⟩, ⟨3, 8⟩⟩] := by
      decide +kernel
    cases read : Program.parse (carriedOn ++ "\nprint(x)") true with
    | error e =>
      rw [read] at spans
      cases spans
    | ok program =>
      rw [read] at spans
      exact ⟨program, rfl, Option.some.inj spans, ((oneLine _).1 program read).2⟩
  · have place : (tokenize carriedOn).toOption.map (·[3]?.map Located.span) =
        some (some ⟨⟨1, 8⟩, ⟨2, 2⟩⟩) := by
      decide +kernel
    have broken : '\n' ∈ (⟨⟨1, 8⟩, ⟨2, 2⟩⟩ : Span).chars carriedOn := by decide +kernel
    cases read : tokenize carriedOn with
    | error e =>
      rw [read] at place
      cases place
    | ok tokens =>
      rw [read] at place
      obtain ⟨t, found, span⟩ := Option.map_eq_some_iff.mp (Option.some.inj place)
      have mem : t ∈ tokens := List.mem_of_getElem? found
      exact ⟨tokens, rfl, t, mem, span, (oneLine carriedOn).2.1 tokens read t mem (span ▸ broken)⟩
  · have gap : (cut "x = ".toList).toOption.map Prod.snd = some [' '] := by decide +kernel
    cases read : cut "x = ".toList with
    | error e =>
      rw [read] at gap
      cases gap
    | ok found =>
      rw [read] at gap
      have last : found.2 = [' '] := Option.some.inj gap
      refine (oneLine leftOpen).2.2 "x = ".toList '\'' "a\nprint(x)".toList found.1 found.2 rfl
        (.inr rfl) read (by simp [last]) ?_ ?_ true
      · rintro ⟨content, after, text, -⟩
        have closing : '\'' ∈ "a\nprint(x)".toList := by simp [text]
        exact absurd closing (by decide)
      · rintro ⟨content, after, text, -⟩
        have escape : '\\' ∈ "a\nprint(x)".toList := by simp [text]
        exact absurd escape (by decide)

/-- A statement does not always end on the line that it starts on. -/
theorem Program.not_oneLine_carriedOn :
    ¬ ∀ (source : String) (program : Program), Program.parse source true = .ok program →
      (∀ s ∈ program, ∃ span, s.span = some span ∧ span.start.line = span.stop.line) ∧
      program.Pairwise fun a b =>
        Related (fun a b => a.stop.line < b.start.line) a.span b.span := by
  intro claimed
  have spans : (Program.parse carriedOn true).toOption.map (·.map Statement.span) =
      some [some ⟨⟨1, 0⟩, ⟨2, 2⟩⟩] := by
    decide +kernel
  cases read : Program.parse carriedOn true with
  | error e =>
    rw [read] at spans
    cases spans
  | ok program =>
    rw [read] at spans
    obtain ⟨s, rfl, recorded⟩ := List.map_eq_singleton_iff.mp (Option.some.inj spans)
    obtain ⟨span, same, line⟩ := (claimed _ _ read).1 s (List.mem_singleton_self s)
    cases recorded.symm.trans same
    cases line

end SeriesScript

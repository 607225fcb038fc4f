import SeriesScript.Proofs.Language.Newline
import SeriesScript.Proofs.Source.Positions

/-!
# The places of tokens

The tokens of a text, but for its end, stand in the text one behind the other, and none of them is
empty. What stands at the place of a name or of a bracket is that name or bracket.
-/
namespace SeriesScript

def Token.lexeme? : Token → Option (List Char)
  | .identifier name => some name.toList
  | .leftParen => some ['(']
  | .rightParen => some [')']
  | _ => none

theorem Token.isNewline_iff {token : Token} : token.isNewline = true ↔ token = .newline := by
  cases token <;> simp [isNewline]

structure LaidOut (source : String) (tokens : List Located) : Prop where
  ordered : tokens.Pairwise fun a b => a.span.Precedes b.span
  filled : ∀ t ∈ tokens, t.span.Filled
  written : ∀ t ∈ tokens, ∀ lexeme, t.token.lexeme? = some lexeme → t.span.chars source = lexeme

namespace LaidOut

variable {source : String} {tokens ts us : List Located}

theorem sublist (h : LaidOut source tokens) (sub : ts.Sublist tokens) : LaidOut source ts where
  ordered := h.ordered.sublist sub
  filled t mem := h.filled t (sub.subset mem)
  written t mem := h.written t (sub.subset mem)

theorem left (h : LaidOut source (ts ++ us)) : LaidOut source ts :=
  h.sublist (List.sublist_append_left ts us)

theorem right (h : LaidOut source (ts ++ us)) : LaidOut source us :=
  h.sublist (List.sublist_append_right ts us)

theorem across (h : LaidOut source (ts ++ us)) : ∀ t ∈ ts, ∀ u ∈ us, t.span.Precedes u.span :=
  (List.pairwise_append.mp h.ordered).2.2

theorem start_le {first : Located} (h : LaidOut source (first :: ts)) :
    ∀ t ∈ first :: ts, first.span.start ≤ t.span.start := by
  obtain ⟨before, -⟩ := List.pairwise_cons.mp h.ordered
  refine List.forall_mem_cons.mpr ⟨le_rfl, fun t mem => ?_⟩
  exact (h.filled first List.mem_cons_self).le.trans (before t mem)

theorem le_stop {last : Located} (h : LaidOut source (ts ++ [last])) :
    ∀ t ∈ ts ++ [last], t.span.stop ≤ last.span.stop := by
  refine List.forall_mem_append.mpr ⟨fun t mem => ?_, List.forall_mem_singleton.mpr le_rfl⟩
  have before : t.span.Precedes last.span := h.across t mem last (List.mem_singleton_self _)
  exact before.trans (h.right.filled last (List.mem_singleton_self _)).le

end LaidOut

namespace Lexer

variable {c : Char} {cs rest last lexeme : List Char} {r : Reading} {pieces : List Piece}
  {p : Position} {piece : Piece} {t : Located}

/-! ## Lexemes of names and brackets -/

theorem lexeme_of_ofWord {word : String} (h : (Token.ofWord word).lexeme? = some lexeme) :
    lexeme = word.toList := by
  unfold Token.ofWord at h
  split at h
  · cases h
  · split at h
    · cases h
    · split at h
      · cases h
      · cases h
      · cases h
        rfl

theorem lexeme_of_ofSign? {token : Token} (h : Token.ofSign? c = some token)
    (written : token.lexeme? = some lexeme) : lexeme = [c] := by
  unfold Token.ofSign? at h
  split at h <;> cases h <;> cases written <;> rfl

theorem lexeme_of_readLexeme (h : readLexeme c cs = .ok r)
    (written : r.token.lexeme? = some lexeme) : lexeme = c :: r.body := by
  rcases token_of_readLexeme h with (⟨n, token⟩ | ⟨x, token⟩) | ⟨s, token⟩ | token | ⟨token, body⟩
  · cases token ▸ written
  · cases token ▸ written
  · cases token ▸ written
  · rw [token] at written
    rw [lexeme_of_ofWord written, String.toList_ofList]
  · rw [lexeme_of_ofSign? token written, body]

theorem forall_piece_of_cut {holds : List Char → Token → Prop}
    (each : ∀ c cs r, readLexeme c cs = .ok r → holds (c :: r.body) r.token)
    (h : cut cs = .ok (pieces, last)) : ∀ piece ∈ pieces, holds piece.lexeme piece.token := by
  fun_induction cut cs generalizing pieces last with
  | case1 =>
    cases h
    exact List.forall_mem_nil _
  | case2 => cases h
  | case3 => cases h
  | case4 cs gap c rest hs r hl pieces' last' hc ih =>
    cases h
    exact List.forall_mem_cons.mpr ⟨each c rest r hl, ih hc⟩

theorem lexeme_of_cut (h : cut cs = .ok (pieces, last)) :
    ∀ piece ∈ pieces, ∀ lexeme, piece.token.lexeme? = some lexeme → piece.lexeme = lexeme := by
  let holds (text : List Char) (token : Token) : Prop :=
    ∀ lexeme, token.lexeme? = some lexeme → text = lexeme
  have each : ∀ c cs r, readLexeme c cs = .ok r → holds (c :: r.body) r.token :=
    fun c cs r read lexeme written => (lexeme_of_readLexeme read written).symm
  exact forall_piece_of_cut each h

/-! ## Places of lexemes -/

theorem Piece.span_filled (p : Position) (h : piece.lexeme ≠ []) : (piece.span p).Filled := by
  rw [Span.Filled, span]
  split
  · exact Position.lt_iff.mpr (.inr ⟨rfl, Nat.lt_succ_self _⟩)
  · exact p.lt_after h

/-- No other position is between a newline and the end of its line. -/
theorem Piece.span_stop_le (p : Position) (h : piece.lexeme ≠ []) :
    (piece.span p).stop ≤ p.after piece.lexeme := by
  have behind := Position.lt_iff.mp (p.lt_after h)
  rw [span]
  split
  · refine Position.le_iff.mpr (behind.imp_right fun same => ?_)
    exact ⟨same.1, same.2⟩
  · exact le_rfl

theorem exists_piece_of_mem (h : t ∈ locateLexemes p pieces) :
    ∃ before behind, ∃ piece ∈ pieces, textOf pieces = before ++ piece.lexeme ++ behind ∧
      t = ⟨piece.token, piece.span (p.after before)⟩ := by
  induction pieces generalizing p with
  | nil => cases h
  | cons piece pieces ih =>
    rcases List.mem_cons.mp h with rfl | h
    · exact ⟨piece.gap, textOf pieces, piece, List.mem_cons_self, rfl, rfl⟩
    · obtain ⟨before, behind, other, mem, text, rfl⟩ := ih h
      refine ⟨piece.text ++ before, behind, other, List.mem_cons_of_mem _ mem, ?_, ?_⟩
      · rw [textOf_cons, text, List.append_assoc, List.append_assoc, List.append_assoc]
      · rw [Position.after_append, Piece.text, Position.after_append]

theorem le_start_of_mem (h : t ∈ locateLexemes p pieces) : p ≤ t.span.start := by
  obtain ⟨before, -, -, -, -, rfl⟩ := exists_piece_of_mem h
  exact p.le_after before

theorem locateLexemes_ordered (p : Position) (h : ∀ piece ∈ pieces, piece.lexeme ≠ []) :
    (locateLexemes p pieces).Pairwise fun a b => a.span.Precedes b.span := by
  induction pieces generalizing p with
  | nil => exact .nil
  | cons piece pieces ih =>
    obtain ⟨first, others⟩ := List.forall_mem_cons.mp h
    refine .cons (fun t mem => ?_) (ih _ others)
    exact (piece.span_stop_le _ first).trans (le_start_of_mem mem)

theorem exists_pieces {us vs : List Located} (h : locateLexemes p pieces = us ++ vs) :
    ∃ ps qs, pieces = ps ++ qs ∧ us = locateLexemes p ps ∧
      vs = locateLexemes (p.after (textOf ps)) qs := by
  induction us generalizing p pieces with
  | nil => exact ⟨[], pieces, rfl, rfl, h.symm⟩
  | cons u us ih =>
    cases pieces with
    | nil => cases h
    | cons piece pieces =>
      obtain ⟨rfl, rest⟩ := List.cons.inj h
      obtain ⟨ps, qs, rfl, rfl, rfl⟩ := ih rest
      refine ⟨piece :: ps, qs, rfl, rfl, ?_⟩
      rw [textOf_cons, Piece.text, Position.after_append, Position.after_append]

theorem stop_of_last {us : List Located} (h : locateLexemes p pieces = us ++ [t])
    (inLine : t.token ≠ .newline) : t.span.stop = p.after (textOf pieces) := by
  obtain ⟨ps, qs, rfl, -, single⟩ := exists_pieces h
  match qs with
  | [] => cases single
  | [piece] =>
    obtain rfl := List.singleton_inj.mp single
    have notNewline : piece.token.isNewline = false :=
      Bool.eq_false_iff.mpr fun newline => inLine (Token.isNewline_iff.mp newline)
    simp [Piece.span, notNewline, textOf_append, Piece.text, Position.after_append]
  | _ :: _ :: _ => simp [locateLexemes] at single

theorem exists_token_of_mem (mem : piece ∈ pieces) (p : Position) :
    ∃ t ∈ locateLexemes p pieces, t.token = piece.token := by
  induction pieces generalizing p with
  | nil => cases mem
  | cons other pieces ih =>
    rcases List.mem_cons.mp mem with rfl | mem
    · exact ⟨_, List.mem_cons_self, rfl⟩
    · obtain ⟨t, here, token⟩ := ih mem ((p.after other.gap).after other.lexeme)
      exact ⟨t, List.mem_cons_of_mem _ here, token⟩

/-- The characters at the place of a lexeme that is no newline. -/
theorem Piece.chars_span (source : String) {before behind : List Char}
    (text : source.toList = before ++ piece.lexeme ++ behind)
    (inLine : piece.token.isNewline = false) :
    (piece.span (Position.start.after before)).chars source = piece.lexeme := by
  have between := Span.charsFrom_between .start before piece.lexeme behind
  rw [Position.after_append, ← text] at between
  rwa [span, if_neg (by simp [inLine])]

theorem isNewline_of_lexeme? {token : Token} (h : token.lexeme? = some lexeme) :
    token.isNewline = false := by
  cases token <;> first | rfl | cases h

/-- The tokens of a text, but for its end, are those of its pieces, and these are laid out in it. -/
theorem exists_cut_of_tokenize {source : String} {tokens : List Located}
    (h : tokenize source = .ok tokens) :
    ∃ pieces last stop, cut source.toList = .ok (pieces, last) ∧
      tokens = locateLexemes .start pieces ++ [stop] ∧
      stop.span.start = Position.start.after source.toList ∧ stop.token = .eof ∧
      (∀ t ∈ locateLexemes .start pieces, t.token ≠ .eof) ∧
      LaidOut source (locateLexemes .start pieces) := by
  unfold tokenize at h
  split at h
  case h_2 => cases h
  rename_i pieces last hc
  cases h
  obtain ⟨whole, -, lexemes⟩ := cut_partition hc
  have ends := locate_append .start pieces [] last
  rw [List.append_nil] at ends
  refine ⟨pieces, last, _, hc, ends, ?_, rfl, fun t mem => ?_, ?_⟩
  · rw [← whole, Position.after_append]
  · obtain ⟨piece, mem, same⟩ := token_mem_of_mem_locateLexemes mem
    rw [same]
    exact (lexemes piece mem).2.1
  · refine ⟨locateLexemes_ordered .start fun piece mem => (lexemes piece mem).1, ?_, ?_⟩
    · intro t mem
      obtain ⟨before, -, piece, member, -, rfl⟩ := exists_piece_of_mem mem
      exact piece.span_filled _ (lexemes piece member).1
    · intro t mem lexeme written
      obtain ⟨before, behind, piece, member, text, rfl⟩ := exists_piece_of_mem mem
      have place : source.toList = before ++ piece.lexeme ++ (behind ++ last) := by
        rw [← whole, text, List.append_assoc (before ++ piece.lexeme)]
      rw [Piece.chars_span source place (isNewline_of_lexeme? written)]
      exact lexeme_of_cut hc piece member lexeme written

/-- The end of a text follows its other tokens, and these are laid out in the text. -/
theorem tokenize_laidOut {source : String} {tokens : List Located}
    (h : tokenize source = .ok tokens) :
    ∃ body stop, tokens = body ++ [stop] ∧ stop.token = .eof ∧ (∀ t ∈ body, t.token ≠ .eof) ∧
      LaidOut source body :=
  have ⟨_, _, stop, _, ends, _, rest⟩ := exists_cut_of_tokenize h
  ⟨_, stop, ends, rest⟩

theorem le_start_of_mem_locate (h : t ∈ locate p pieces last) : p ≤ t.span.start := by
  induction pieces generalizing p with
  | nil =>
    obtain rfl := List.mem_singleton.mp h
    exact p.le_after last
  | cons piece pieces ih =>
    have first := p.le_after piece.gap
    rcases List.mem_cons.mp h with rfl | h
    · exact first
    · exact (first.trans (Position.le_after _ piece.lexeme)).trans (ih h)

theorem locate_starts (p : Position) (last : List Char) (h : ∀ piece ∈ pieces, piece.lexeme ≠ []) :
    (locate p pieces last).Pairwise fun a b => a.span.start < b.span.start := by
  induction pieces generalizing p with
  | nil => exact List.pairwise_singleton _ _
  | cons piece pieces ih =>
    obtain ⟨first, others⟩ := List.forall_mem_cons.mp h
    exact .cons (fun t mem => (Position.lt_after _ first).trans_le (le_start_of_mem_locate mem))
      (ih _ others)

/-- No two tokens start at the same place, the end of the text included. -/
theorem starts_of_tokenize {source : String} {tokens : List Located}
    (h : tokenize source = .ok tokens) :
    tokens.Pairwise fun a b => a.span.start < b.span.start := by
  unfold tokenize at h
  split at h
  case h_2 => cases h
  rename_i pieces last hc
  cases h
  obtain ⟨-, -, lexemes⟩ := cut_partition hc
  exact locate_starts .start last fun piece mem => (lexemes piece mem).1

end Lexer

end SeriesScript

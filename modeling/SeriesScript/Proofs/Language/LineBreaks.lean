import SeriesScript.Proofs.Language.Places
import SeriesScript.Proofs.Language.Writing

/-!
# Line breaks

A newline is a lexeme of its own and stands in no gap. The one longer lexeme that it can stand in is
a quoted text, and there only behind a backslash. So a text that is not closed on its line is
refused, unless a backslash at the end of the line takes the newline with it.
-/
namespace SeriesScript.Lexer

def EscapesBreak (text : List Char) : Prop := ['\\', '\n'] <:+: text

/-- What can stand behind an opening quote, before the closing one. A backslash takes any character
with it; of the others none is a newline. -/
inductive Content (quote : Char) : List Char → Prop
  | nil : Content quote []
  | plain {c : Char} {cs : List Char} (other : c ≠ quote ∧ c ≠ '\n' ∧ c ≠ '\\')
      (rest : Content quote cs) : Content quote (c :: cs)
  | escape (c : Char) {cs : List Char} (rest : Content quote cs) : Content quote ('\\' :: c :: cs)

def ClosesOnLine (quote : Char) (rest : List Char) : Prop :=
  ∃ content after, rest = content ++ quote :: after ∧ Content quote content ∧ '\n' ∉ content

/-- The quote that was opened is still open at the end of the line, and a backslash stands there. -/
def EscapesLineEnd (quote : Char) (rest : List Char) : Prop :=
  ∃ content after, rest = content ++ '\\' :: '\n' :: after ∧ Content quote content ∧ '\n' ∉ content

variable {c quote : Char} {cs rest value body content gap last above lexeme : List Char}
  {r : Reading} {pieces : List Piece} {token : Token} {fault : SyntaxFault}

/-! ## Quoted texts -/

theorem content_of_readQuoted (h : readQuoted quote cs = some (value, body, rest)) :
    ∃ content, body = content ++ [quote] ∧ Content quote content := by
  fun_induction readQuoted quote cs generalizing value body rest with
  | case2 cs =>
    cases h
    exact ⟨[], rfl, .nil⟩
  | case5 e tail value' body' after hs closed line ih =>
    cases h
    obtain ⟨content, rfl, inner⟩ := ih hs
    exact ⟨'\\' :: e :: content, rfl, .escape e inner⟩
  | case7 c cs closed line plain value' body' after hs ih =>
    cases h
    obtain ⟨content, rfl, inner⟩ := ih hs
    exact ⟨c :: content, rfl, .plain ⟨closed, line, plain⟩ inner⟩
  | _ => cases h

/-- The first newline in a quoted text stands behind a backslash. -/
theorem Content.exists_break (h : Content quote cs) (mem : '\n' ∈ cs) :
    ∃ content after, cs = content ++ '\\' :: '\n' :: after ∧ Content quote content ∧
      '\n' ∉ content := by
  induction h with
  | nil => cases mem
  | @plain c cs other rest ih =>
    have behind : '\n' ∈ cs := (List.mem_cons.mp mem).resolve_left other.2.1.symm
    obtain ⟨content, after, rfl, inner, line⟩ := ih behind
    exact ⟨c :: content, after, rfl, .plain other inner,
      List.not_mem_cons_of_ne_of_not_mem other.2.1.symm line⟩
  | @escape c cs rest ih =>
    by_cases newline : c = '\n'
    · exact ⟨[], cs, by rw [newline]; rfl, .nil, List.not_mem_nil⟩
    · have behind : '\n' ∈ cs := by simpa [Ne.symm newline] using mem
      obtain ⟨content, after, rfl, inner, line⟩ := ih behind
      exact ⟨'\\' :: c :: content, after, rfl, .escape c inner, by simp [Ne.symm newline, line]⟩

theorem readQuoted_eq_none (unclosed : ¬ ClosesOnLine quote rest)
    (unescaped : ¬ EscapesLineEnd quote rest) : readQuoted quote rest = none := by
  refine Option.eq_none_iff_forall_ne_some.mpr fun (value, body, after) found => ?_
  obtain ⟨content, rfl, inner⟩ := content_of_readQuoted found
  have text : rest = content ++ quote :: after := by simpa using (readQuoted_append found).symm
  by_cases newline : '\n' ∈ content
  · obtain ⟨before, behind, rfl, inner', line⟩ := inner.exists_break newline
    exact unescaped ⟨before, behind ++ quote :: after, by simpa using text, inner', line⟩
  · exact unclosed ⟨content, after, text, inner, newline⟩

/-! ## Lexemes -/

theorem newline_not_mem_takeWhile {p : Char → Bool} (h : p '\n' = false) (cs : List Char) :
    '\n' ∉ cs.takeWhile p := fun mem => by
  have holds : p '\n' = true := List.mem_takeWhile_imp mem
  simp [h] at holds

theorem newline_not_mem_readFraction {fraction : List Char}
    (h : readFraction cs = some (fraction, rest)) : '\n' ∉ fraction := by
  unfold readFraction at h
  split at h
  · rename_i d digits
    split at h
    · rename_i digit
      cases h
      have first : '\n' ≠ d := by
        rintro rfl
        exact absurd digit (by decide)
      exact List.not_mem_cons_of_ne_of_not_mem first
        (newline_not_mem_takeWhile stops_newline.digit digits)
    · cases h
  · cases h

theorem newline_not_mem_readNumber (h : readNumber c cs = .ok r) : '\n' ∉ r.body := by
  have whole := newline_not_mem_takeWhile stops_newline.digit cs
  unfold readNumber at h
  simp only at h
  split at h
  · rename_i fraction after found
    cases h
    simp [whole, newline_not_mem_readFraction found]
  · split at h
    · cases h
      exact whole
    · cases h

/-- A newline, or a lexeme with none in it, or a quoted text with none but those that a backslash
takes. -/
def KeepsLine (lexeme : List Char) (token : Token) : Prop :=
  if token.isNewline then lexeme = ['\n']
  else '\n' ∈ lexeme → (∃ s, token = .text s) ∧ EscapesBreak lexeme

theorem keepsLine_of_not_mem (token_ne : token.isNewline = false) (h : '\n' ∉ lexeme) :
    KeepsLine lexeme token := by
  simp [KeepsLine, token_ne, h]

theorem isNewline_ofWord (word : String) : (Token.ofWord word).isNewline = false := by
  unfold Token.ofWord
  split
  · rfl
  · split
    · rfl
    · split <;> rfl

theorem keepsLine_of_ofSign? (h : Token.ofSign? c = some token) : KeepsLine [c] token := by
  unfold Token.ofSign? at h
  split at h <;> cases h
  all_goals first
    | rfl
    | exact keepsLine_of_not_mem rfl (by decide)

theorem EscapesBreak.mono {text : List Char} (h : EscapesBreak lexeme) (inside : lexeme <:+: text) :
    EscapesBreak text := h.trans inside

theorem Content.escapesBreak (h : Content quote content) (mem : '\n' ∈ content) :
    EscapesBreak content := by
  obtain ⟨before, after, rfl, -, -⟩ := h.exists_break mem
  exact ⟨before, after, by simp⟩

theorem keepsLine_of_readLexeme (h : readLexeme c cs = .ok r) : KeepsLine (c :: r.body) r.token := by
  unfold readLexeme at h
  split at h
  case isTrue digit =>
    have first : '\n' ≠ c := by
      rintro rfl
      exact absurd digit (by decide)
    refine keepsLine_of_not_mem ?_
      (List.not_mem_cons_of_ne_of_not_mem first (newline_not_mem_readNumber h))
    rcases token_of_readNumber h with ⟨n, token⟩ | ⟨x, token⟩ <;> rw [token] <;> rfl
  split at h
  case isTrue quotes =>
    split at h
    case h_2 => cases h
    rename_i value body rest found
    cases h
    obtain ⟨content, rfl, inner⟩ := content_of_readQuoted found
    have line : '\n' ≠ c := by rcases quotes with rfl | rfl <;> decide
    refine fun mem => ⟨⟨_, rfl⟩, ?_⟩
    have within : '\n' ∈ content := by simpa [line] using mem
    exact (inner.escapesBreak within).mono ⟨[c], [c], rfl⟩
  split at h
  case isTrue word =>
    cases h
    have first : '\n' ≠ c := by
      rintro rfl
      exact absurd word (by decide +kernel)
    exact keepsLine_of_not_mem (isNewline_ofWord _) (List.not_mem_cons_of_ne_of_not_mem first
      (newline_not_mem_takeWhile stops_newline.word cs))
  split at h
  case h_2 => cases h
  rename_i token sign
  cases h
  exact keepsLine_of_ofSign? sign

/-! ## Gaps -/

theorem newline_not_mem_of_isGap (h : IsGap gap rest) : '\n' ∉ gap := by
  obtain ⟨blanks, comment, rfl, blank, behind⟩ := h
  have first : '\n' ∉ blanks := fun mem => (blank '\n' mem).1 rfl
  rcases behind with rfl | ⟨body, rfl, closed, -⟩
  · simpa using first
  · simp [first, closed]

theorem newline_not_mem_gap (h : GapsOf pieces last) : ∀ piece ∈ pieces, '\n' ∉ piece.gap := by
  induction pieces with
  | nil => exact List.forall_mem_nil _
  | cons piece pieces ih =>
    exact List.forall_mem_cons.mpr ⟨newline_not_mem_of_isGap h.1, ih h.2⟩

/-- Blanks without a comment are a gap before anything that starts a lexeme. -/
theorem splitGap_of_blanks (h : splitGap false gap = (gap, [])) (inLine : '#' ∉ gap)
    (starts : StartsLexeme c) (body : List Char) :
    splitGap false (gap ++ c :: body) = (gap, c :: body) := by
  have isGap := isGap_splitGap gap
  rw [h] at isGap
  obtain ⟨blanks, comment, rfl, blank, behind⟩ := isGap
  obtain rfl : comment = [] := by
    rcases behind with rfl | ⟨body, rfl, -, -⟩
    · rfl
    · simp at inLine
  exact splitGap_of_isGap ⟨blanks, [], rfl, blank, .inl rfl⟩ (splitGap_of_startsLexeme starts body)

/-! ## Tokens -/

/-- The only tokens with a newline in their text are newlines and quoted texts that a backslash
takes it into. -/
theorem token_of_newline_mem {source : String} {tokens : List Located}
    (h : tokenize source = .ok tokens) :
    ∀ t ∈ tokens, '\n' ∈ t.span.chars source →
      t.token = .newline ∨ (∃ s, t.token = .text s) ∧ EscapesBreak (t.span.chars source) := by
  obtain ⟨pieces, last, stop, hc, rfl, ends, -⟩ := exists_cut_of_tokenize h
  obtain ⟨whole, -, -⟩ := cut_partition hc
  have keeps := forall_piece_of_cut (fun _ _ _ => keepsLine_of_readLexeme) hc
  refine List.forall_mem_append.mpr ⟨fun t mem broken => ?_, ?_⟩
  · obtain ⟨before, behind, piece, member, text, rfl⟩ := exists_piece_of_mem mem
    have keep := keeps piece member
    cases newline : piece.token.isNewline with
    | true => exact .inl (Token.isNewline_iff.mp newline)
    | false =>
      have place : source.toList = before ++ piece.lexeme ++ (behind ++ last) := by
        rw [← whole, text, List.append_assoc (before ++ piece.lexeme)]
      rw [Piece.chars_span source place newline] at broken ⊢
      rw [KeepsLine, newline] at keep
      exact .inr (keep broken)
  · refine List.forall_mem_singleton.mpr fun broken => ?_
    have nothing : stop.span.chars source = [] := Span.charsFrom_before ends.ge
    rw [nothing] at broken
    cases broken

/-! ## Quotes that are not closed -/

theorem cut_of_fault {cs : List Char} (hs : splitGap false cs = (gap, c :: rest))
    (hl : readLexeme c rest = .error fault) : cut cs = .error ⟨gap, fault⟩ := by
  rw [cut]
  split
  · simp_all
  · split <;> simp_all

theorem stops_quote (h : quote = '"' ∨ quote = '\'') : Stops quote := by
  rcases h with rfl | rfl <;> exact ⟨by decide, by decide +kernel, by decide⟩

theorem startsLexeme_quote (h : quote = '"' ∨ quote = '\'') : StartsLexeme quote := by
  rcases h with rfl | rfl <;> exact ⟨by decide, .inr (by decide)⟩

/-- Behind pieces and perhaps blanks, a quote that is not closed on its line is at fault, unless the
newline there is escaped. -/
theorem tokenize_unterminated {source : String} (text : source.toList = above ++ quote :: rest)
    (quotes : quote = '"' ∨ quote = '\'') (read : cut above = .ok (pieces, last))
    (inLine : '#' ∉ last) (unclosed : ¬ ClosesOnLine quote rest)
    (unescaped : ¬ EscapesLineEnd quote rest) :
    tokenize source = .error ⟨.unterminatedText, Position.start.after above⟩ := by
  have fault : readLexeme quote rest = .error .unterminatedText := by
    rw [readLexeme, if_neg (by simp [(stops_quote quotes).digit]), if_pos quotes,
      readQuoted_eq_none unclosed unescaped]
  have failed : cut (last ++ quote :: rest) = .error ⟨last, .unterminatedText⟩ :=
    cut_of_fault (splitGap_of_blanks (splitGap_last read) inLine (startsLexeme_quote quotes) rest)
      fault
  obtain ⟨whole, -, -⟩ := cut_partition read
  rw [tokenize, text, cut_stop (stops_quote quotes) read, failed, foldr_before_error, whole]

end SeriesScript.Lexer

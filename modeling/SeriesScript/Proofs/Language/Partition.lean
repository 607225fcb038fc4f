import Mathlib.Data.List.TakeWhile
import SeriesScript.Language.Lexer
import SeriesScript.Proofs.Source.Positions

/-!
# Gaps and lexemes

A text that is cut into tokens is a sequence of gaps and lexemes, with nothing between them. Gaps
hold blanks and comments only, each lexeme gives its token whatever stands around it, and the spans
of the tokens are the positions of the lexemes in the text.
-/
namespace SeriesScript.Lexer

open Position (ofOffset)

variable {c : Char} {cs rest last : List Char} {r : Reading} {pieces : List Piece}

/-! ## Gaps -/

/-- Blanks, and behind them perhaps a comment that reaches to the end of the line or of the text;
`rest` is what follows. -/
def IsGap (gap rest : List Char) : Prop :=
  ∃ blanks comment, gap = blanks ++ comment ∧
    (∀ c ∈ blanks, c ≠ '\n' ∧ Unicode.isBlank c = true) ∧
    (comment = [] ∨ ∃ body, comment = '#' :: body ∧ '\n' ∉ body ∧
      (rest = [] ∨ ∃ after, rest = '\n' :: after))

theorem splitGap_comment (cs : List Char) :
    '\n' ∉ (splitGap true cs).1 ∧
      ((splitGap true cs).2 = [] ∨ ∃ after, (splitGap true cs).2 = '\n' :: after) := by
  induction cs with
  | nil => simp [splitGap]
  | cons c cs ih =>
    by_cases newline : c = '\n'
    · simp [splitGap, newline]
    · rw [splitGap, if_neg newline]
      exact ⟨List.not_mem_cons_of_ne_of_not_mem (Ne.symm newline) ih.1, ih.2⟩

theorem isGap_splitGap (cs : List Char) : IsGap (splitGap false cs).1 (splitGap false cs).2 := by
  induction cs with
  | nil => exact ⟨[], [], rfl, by simp, .inl rfl⟩
  | cons c cs ih =>
    rw [splitGap]
    by_cases hash : c = '#'
    · subst hash
      obtain ⟨closed, ends⟩ := splitGap_comment cs
      simp only [if_true]
      exact ⟨[], _, rfl, by simp, .inr ⟨_, rfl, closed, ends⟩⟩
    · rw [if_neg hash]
      by_cases blank : c ≠ '\n' ∧ Unicode.isBlank c = true
      · obtain ⟨blanks, comment, hg, all, hc⟩ := ih
        rw [if_pos blank]
        exact ⟨c :: blanks, comment, by simp [hg], by simpa using ⟨blank, all⟩, hc⟩
      · rw [if_neg blank]
        exact ⟨[], [], rfl, by simp, .inl rfl⟩

/-- What follows a gap starts with no gap. -/
theorem splitGap_cons (inside : Bool) (h : (splitGap inside cs).2 = c :: rest) (body : List Char) :
    splitGap false (c :: body) = ([], c :: body) := by
  fun_induction splitGap inside cs with
  | case1 => cases h
  | case2 cs =>
    cases h
    rfl
  | case3 d cs newline gap rest' hs ih => exact ih (by simpa [hs] using h)
  | case4 cs gap rest' hs ih => exact ih (by simpa [hs] using h)
  | case5 d cs hash blank gap rest' hs ih => exact ih (by simpa [hs] using h)
  | case6 d cs hash blank =>
    cases h
    rw [splitGap, if_neg hash, if_neg blank]

/-! ## Lexemes -/

/-- Nothing is left of what was taken, when it is taken again. -/
theorem dropWhile_takeWhile (p : Char → Bool) (cs : List Char) :
    (cs.takeWhile p).dropWhile p = [] :=
  List.dropWhile_eq_nil_iff.mpr fun _ => List.mem_takeWhile_imp

/-- A quoted text ends at its closing quote, whatever follows. -/
theorem readQuoted_body {quote : Char} {value body : List Char}
    (h : readQuoted quote cs = some (value, body, rest)) (more : List Char) :
    readQuoted quote (body ++ more) = some (value, body, more) := by
  fun_induction readQuoted quote cs generalizing value body rest with
  | case1 => cases h
  | case2 cs =>
    cases h
    unfold readQuoted
    exact if_pos rfl
  | case3 => cases h
  | case4 => cases h
  | case5 e tail value' body' after hs closed line ih =>
    cases h
    simp [readQuoted, closed, ih hs]
  | case6 => cases h
  | case7 c cs closed line plain value' body' after hs ih =>
    cases h
    rw [List.cons_append]
    unfold readQuoted
    simp [closed, line, plain, ih hs]
  | case8 => cases h

theorem readFraction_alone {fraction : List Char} (h : readFraction cs = some (fraction, rest)) :
    readFraction ('.' :: fraction) = some (fraction, []) := by
  unfold readFraction at h
  split at h
  · rename_i d digits
    split at h
    · rename_i digit
      cases h
      simp [readFraction, digit, List.takeWhile_idem, dropWhile_takeWhile]
    · cases h
  · cases h

theorem readNumber_alone (h : readNumber c cs = .ok r) :
    readNumber c r.body = .ok ⟨r.token, r.body, []⟩ := by
  unfold readNumber at h
  simp only at h
  split at h
  · rename_i fraction after hf
    cases h
    have whole : ∀ d ∈ cs.takeWhile Decimal.isDigit, Decimal.isDigit d = true :=
      fun _ => List.mem_takeWhile_imp
    have point : Decimal.isDigit '.' = false := by decide
    simp [readNumber, List.takeWhile_append_of_pos whole, List.dropWhile_append_of_pos whole, point,
      readFraction_alone hf]
  · split at h
    · rename_i token ht
      cases h
      simp [readNumber, List.takeWhile_idem, dropWhile_takeWhile, readFraction, ht]
    · cases h

theorem readLexeme_alone (h : readLexeme c cs = .ok r) :
    readLexeme c r.body = .ok ⟨r.token, r.body, []⟩ := by
  unfold readLexeme at h ⊢
  by_cases digit : Decimal.isDigit c = true
  · rw [if_pos digit] at h ⊢
    exact readNumber_alone h
  rw [if_neg digit] at h ⊢
  by_cases quote : c = '"' ∨ c = '\''
  · rw [if_pos quote] at h ⊢
    split at h
    · rename_i value body rest hq
      cases h
      have alone := readQuoted_body hq []
      rw [List.append_nil] at alone
      simp [alone]
    · cases h
  rw [if_neg quote] at h ⊢
  by_cases word : isWordStart c = true
  · rw [if_pos word] at h ⊢
    cases h
    simp [readWord, List.takeWhile_idem, dropWhile_takeWhile]
  rw [if_neg word] at h ⊢
  split at h
  · cases h
    rfl
  · cases h

theorem ofWord_ne_eof (word : String) : Token.ofWord word ≠ .eof := by
  unfold Token.ofWord
  split
  · exact Token.noConfusion
  · split
    · exact Token.noConfusion
    · split <;> exact Token.noConfusion

theorem ofSign?_ne_eof (c : Char) : Token.ofSign? c ≠ some .eof := by
  unfold Token.ofSign?
  split <;> simp

theorem token_of_readNumber (h : readNumber c cs = .ok r) :
    (∃ n, r.token = .integer n) ∨ ∃ x, r.token = .decimal x := by
  unfold readNumber at h
  simp only at h
  split at h
  · cases h
    exact .inr ⟨_, rfl⟩
  · split at h
    · rename_i token ht
      cases h
      unfold integerToken at ht
      simp only at ht
      split at ht
      · cases ht
        exact .inl ⟨_, rfl⟩
      · cases ht
    · cases h

/-- The token that a lexeme gives: that of a number, of a quoted text, of a word or of a sign. -/
theorem token_of_readLexeme (h : readLexeme c cs = .ok r) :
    ((∃ n, r.token = .integer n) ∨ ∃ x, r.token = .decimal x) ∨ (∃ s, r.token = .text s) ∨
      r.token = Token.ofWord (String.ofList (c :: r.body)) ∨
      (Token.ofSign? c = some r.token ∧ r.body = []) := by
  unfold readLexeme at h
  split at h
  · exact .inl (token_of_readNumber h)
  right
  split at h
  · split at h
    · cases h
      exact .inl ⟨_, rfl⟩
    · cases h
  right
  split at h
  · cases h
    exact .inl rfl
  · split at h
    · rename_i token ht
      cases h
      exact .inr ⟨ht, rfl⟩
    · cases h

theorem token_ne_eof (h : readLexeme c cs = .ok r) : r.token ≠ .eof := by
  intro eof
  rcases token_of_readLexeme h with (⟨n, token⟩ | ⟨x, token⟩) | ⟨s, token⟩ | token | ⟨token, -⟩
  · cases token.symm.trans eof
  · cases token.symm.trans eof
  · cases token.symm.trans eof
  · exact ofWord_ne_eof _ (token.symm.trans eof)
  · exact ofSign?_ne_eof c (eof ▸ token)

/-! ## Pieces -/

def Piece.text (piece : Piece) : List Char := piece.gap ++ piece.lexeme

def textOf (pieces : List Piece) : List Char := pieces.flatMap Piece.text

@[simp] theorem textOf_nil : textOf [] = [] := rfl

@[simp] theorem textOf_cons (piece : Piece) (pieces : List Piece) :
    textOf (piece :: pieces) = piece.text ++ textOf pieces := List.flatMap_cons

/-- The lexeme is not empty and alone decides its token: as a text of its own it is that one token,
and this is not the end of a text. -/
def Piece.StandsAlone (piece : Piece) : Prop :=
  piece.lexeme ≠ [] ∧ piece.token ≠ .eof ∧
    ∃ span stop, tokenize (String.ofList piece.lexeme) = .ok [⟨piece.token, span⟩, ⟨.eof, stop⟩]

/-- The gaps of these pieces and the last gap, each up to the lexeme or the end behind it. -/
def GapsOf : List Piece → List Char → Prop
  | [], last => IsGap last []
  | piece :: pieces, last =>
    IsGap piece.gap (piece.lexeme ++ textOf pieces ++ last) ∧ GapsOf pieces last

/-- The token of a piece, with the span that the lexeme has in a text where the piece starts at an
offset. A newline ends on the line that it ends. -/
def Piece.placed (text : List Char) (offset : Nat) (piece : Piece) : Located :=
  let start := ofOffset text (offset + piece.gap.length)
  let stop := ofOffset text (offset + piece.gap.length + piece.lexeme.length)
  ⟨piece.token, ⟨start, if piece.token.isNewline then ⟨start.line, start.column + 1⟩ else stop⟩⟩

theorem cut_of_gap {gap : List Char} (hs : splitGap false cs = (gap, [])) :
    cut cs = .ok ([], gap) := by
  rw [cut]
  split
  · simp_all
  · simp_all

theorem cut_of_readLexeme {gap : List Char} (hs : splitGap false cs = (gap, c :: rest))
    (hl : readLexeme c rest = .ok r) (hc : cut r.rest = .ok (pieces, last)) :
    cut cs = .ok (⟨gap, c :: r.body, r.token⟩ :: pieces, last) := by
  rw [cut]
  split
  · simp_all
  · split <;> simp_all

theorem standsAlone_of_readLexeme (gap : List Char) (hs : (splitGap false cs).2 = c :: rest)
    (hl : readLexeme c rest = .ok r) : (⟨gap, c :: r.body, r.token⟩ : Piece).StandsAlone := by
  have whole := cut_of_readLexeme (splitGap_cons false hs r.body) (readLexeme_alone hl)
    (cut_of_gap rfl)
  refine ⟨List.cons_ne_nil _ _, token_ne_eof hl, ?_⟩
  simp [tokenize, whole, locate]

theorem cut_partition {pieces : List Piece} (h : cut cs = .ok (pieces, last)) :
    textOf pieces ++ last = cs ∧ GapsOf pieces last ∧ ∀ piece ∈ pieces, piece.StandsAlone := by
  fun_induction cut cs generalizing pieces last with
  | case1 cs gap hs =>
    cases h
    have whole := splitGap_append false cs
    have isGap := isGap_splitGap cs
    rw [hs] at whole isGap
    exact ⟨by simpa using whole, isGap, by simp⟩
  | case2 cs gap c rest hs fault hl => cases h
  | case3 => cases h
  | case4 cs gap c rest hs r hl pieces' last' hc ih =>
    cases h
    obtain ⟨whole, gaps, alone⟩ := ih hc
    have text := splitGap_append false cs
    have isGap := isGap_splitGap cs
    have lexeme : c :: r.body ++ (textOf pieces' ++ last') = c :: rest := by
      rw [whole, List.cons_append, readLexeme_append hl]
    have first : (splitGap false cs).2 = c :: rest := by rw [hs]
    rw [hs] at text isGap
    refine ⟨?_, ⟨?_, gaps⟩, ?_⟩
    · rw [textOf_cons, Piece.text, List.append_assoc, List.append_assoc, lexeme, text]
    · rwa [List.append_assoc, lexeme]
    · exact List.forall_mem_cons.mpr ⟨standsAlone_of_readLexeme gap first hl, alone⟩

theorem Piece.placed_append (piece : Piece) (read rest : List Char) :
    piece.placed (read ++ piece.text ++ rest) read.length =
      ⟨piece.token, piece.span ((Position.start.after read).after piece.gap)⟩ := by
  have starts := Position.ofOffset_append (read ++ piece.gap) (piece.lexeme ++ rest)
  have stops := Position.ofOffset_append (read ++ piece.gap ++ piece.lexeme) rest
  simp only [List.length_append, List.append_assoc, Position.after_append] at starts stops
  simp only [placed, span, text, List.append_assoc, Nat.add_assoc, starts, stops]

/-- Tokens that are located from the end of `read` on have their places in the whole text. -/
theorem locate_eq_placed (read : List Char) (pieces : List Piece) (last : List Char) :
    let text := read ++ textOf pieces ++ last
    locate (Position.start.after read) pieces last =
      pieces.mapIdx (fun i piece =>
        piece.placed text (read.length + (textOf (pieces.take i)).length)) ++
      [⟨.eof, ⟨ofOffset text text.length, ofOffset text text.length⟩⟩] := by
  induction pieces generalizing read with
  | nil =>
    have stop := Position.ofOffset_append (read ++ last) []
    simp only [List.append_nil, Position.after_append, List.length_append] at stop
    simp [locate, stop]
  | cons piece pieces ih =>
    have first := piece.placed_append read (textOf pieces ++ last)
    have others := ih (read ++ piece.text)
    simp only [Piece.text, List.append_assoc, List.length_append, Position.after_append]
      at first others
    simp [locate, Piece.text, first, others, Nat.add_assoc]

/-- The pieces and the last gap make up the text, and the tokens are those of the lexemes, each at
its place, with one token behind them for the end of the text. -/
structure Partitions (text : List Char) (pieces : List Piece) (last : List Char)
    (tokens : List Located) : Prop where
  whole : textOf pieces ++ last = text
  gaps : GapsOf pieces last
  lexemes : ∀ piece ∈ pieces, piece.StandsAlone
  places : tokens =
    pieces.mapIdx (fun i piece => piece.placed text (textOf (pieces.take i)).length) ++
      [⟨.eof, ⟨ofOffset text text.length, ofOffset text text.length⟩⟩]

/-- A text that can be cut into tokens is gaps and lexemes, one after the other, and the spans of
the tokens are where these lexemes start and end. -/
theorem tokenize_partitions (source : String) (tokens : List Located)
    (h : tokenize source = .ok tokens) :
    ∃ pieces last, Partitions source.toList pieces last tokens := by
  unfold tokenize at h
  split at h
  · rename_i pieces last hc
    cases h
    obtain ⟨whole, gaps, lexemes⟩ := cut_partition hc
    have places := locate_eq_placed [] pieces last
    simp only [List.nil_append, whole, Position.after_nil, List.length_nil, Nat.zero_add] at places
    exact ⟨pieces, last, whole, gaps, lexemes, places⟩
  · cases h

def remarked : String := "x = 1.5 # a half\n'a\\\nb'"

theorem tokenize_partitions_remarked :
    ∃ tokens, tokenize remarked = .ok tokens ∧
      tokens.map Located.span =
        [⟨⟨1, 0⟩, ⟨1, 1⟩⟩, ⟨⟨1, 2⟩, ⟨1, 3⟩⟩, ⟨⟨1, 4⟩, ⟨1, 7⟩⟩, ⟨⟨1, 16⟩, ⟨1, 17⟩⟩, ⟨⟨2, 0⟩, ⟨3, 2⟩⟩,
          ⟨⟨3, 2⟩, ⟨3, 2⟩⟩] ∧
      ∃ pieces last, Partitions remarked.toList pieces last tokens := by
  have spans : (tokenize remarked).toOption.map (·.map Located.span) =
      some [⟨⟨1, 0⟩, ⟨1, 1⟩⟩, ⟨⟨1, 2⟩, ⟨1, 3⟩⟩, ⟨⟨1, 4⟩, ⟨1, 7⟩⟩, ⟨⟨1, 16⟩, ⟨1, 17⟩⟩,
        ⟨⟨2, 0⟩, ⟨3, 2⟩⟩, ⟨⟨3, 2⟩, ⟨3, 2⟩⟩] := by
    decide +kernel
  cases read : tokenize remarked with
  | error e =>
    rw [read] at spans
    cases spans
  | ok tokens =>
    rw [read] at spans
    exact ⟨tokens, rfl, Option.some.inj spans, tokenize_partitions remarked tokens read⟩

end SeriesScript.Lexer

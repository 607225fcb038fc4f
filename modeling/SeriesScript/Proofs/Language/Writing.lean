import SeriesScript.Proofs.Language.Spelling

/-!
# Reading what was written

Tokens are written as a text by spelling each of them, with a gap before each but the first and with
gaps at will around them all. Cutting such a text gives these spellings again, so reading undoes
writing.
-/
namespace SeriesScript.Lexer

variable {gap rest last : List Char} {pieces : List Piece}

/-! ## Gaps -/

theorem splitGap_of_isGap (h : IsGap gap rest) (stops : splitGap false rest = ([], rest)) :
    splitGap false (gap ++ rest) = (gap, rest) := by
  obtain ⟨blanks, comment, rfl, blank, behind⟩ := h
  have commented : splitGap false (comment ++ rest) = (comment, rest) := by
    rcases behind with rfl | ⟨body, rfl, closed, ends⟩
    · exact stops
    · have inside : splitGap true (body ++ rest) = (body, rest) := by
        induction body with
        | nil => rcases ends with rfl | ⟨after, rfl⟩ <;> simp [splitGap]
        | cons c body ih =>
          have first : c ≠ '\n' := fun newline => closed (newline ▸ List.mem_cons_self)
          simp [splitGap, first, ih fun mem => closed (List.mem_cons_of_mem _ mem)]
      simp [splitGap, inside]
  induction blanks with
  | nil => exact commented
  | cons c blanks ih =>
    obtain ⟨first, others⟩ := List.forall_mem_cons.mp blank
    have hash : c ≠ '#' := by
      rintro rfl
      exact absurd first.2 (by decide)
    simp only [List.cons_append, List.append_assoc] at ih ⊢
    simp [splitGap, hash, first, ih others]

theorem endsLexeme_of_isGap {more : List Char} (h : IsGap gap rest) (some : gap ≠ []) :
    EndsLexeme (gap ++ more) := by
  obtain ⟨_ | ⟨c, blanks⟩, comment, rfl, blank, behind⟩ := h
  · rcases behind with rfl | ⟨body, rfl, -, -⟩
    · exact absurd rfl some
    · rintro c ⟨⟩
      exact .inl rfl
  · rintro d ⟨⟩
    exact .inr (blank c List.mem_cons_self).2

theorem splitGap_of_startsLexeme {c : Char} (h : StartsLexeme c) (body : List Char) :
    splitGap false (c :: body) = ([], c :: body) := by
  obtain ⟨hash, line | blank⟩ := h
  · simp [splitGap, line]
  · simp [splitGap, hash, blank]

/-! ## Texts -/

/-- The pieces, and a last gap behind them, write a list of tokens: each lexeme spells the token in
its place, all else is gaps, and no two lexemes stand without a gap between them. -/
structure Writes (pieces : List Piece) (last : List Char) (tokens : List Token) : Prop where
  tokens : pieces.map Piece.token = tokens
  spelled : ∀ piece ∈ pieces, Spells piece.lexeme piece.token
  gaps : GapsOf pieces last
  apart : ∀ piece ∈ pieces.tail, piece.gap ≠ []

theorem endsLexeme_of_gapsOf (gaps : GapsOf pieces last)
    (apart : ∀ piece ∈ pieces, piece.gap ≠ []) : EndsLexeme (textOf pieces ++ last) := by
  cases pieces with
  | nil =>
    by_cases none : last = []
    · simp [none, EndsLexeme]
    · have ends : EndsLexeme (last ++ []) := endsLexeme_of_isGap gaps none
      simpa using ends
  | cons piece pieces =>
    rw [textOf_cons, Piece.text, List.append_assoc, List.append_assoc]
    exact endsLexeme_of_isGap gaps.1 (apart piece List.mem_cons_self)

/-- A written text is cut into what it was written from. -/
theorem cut_of_writes {tokens : List Token} (h : Writes pieces last tokens) :
    cut (textOf pieces ++ last) = .ok (pieces, last) := by
  obtain ⟨-, spelled, gaps, apart⟩ := h
  induction pieces with
  | nil =>
    have all := splitGap_of_isGap gaps rfl
    rw [List.append_nil] at all
    exact cut_of_gap all
  | cons piece pieces ih =>
    obtain ⟨gap, lexeme, token⟩ := piece
    obtain ⟨first, others⟩ := List.forall_mem_cons.mp spelled
    obtain ⟨c, body, rfl, start, read⟩ := first.readBack
    obtain ⟨before, behind⟩ := gaps
    have rest := ih others behind fun piece mem => apart piece (List.mem_of_mem_tail mem)
    have ends := endsLexeme_of_gapsOf behind apart
    have gapped : splitGap false (gap ++ (c :: (body ++ (textOf pieces ++ last)))) =
        (gap, c :: (body ++ (textOf pieces ++ last))) := by
      refine splitGap_of_isGap ?_ (splitGap_of_startsLexeme start _)
      simpa using before
    simpa [Piece.text] using cut_of_readLexeme gapped (read _ ends) rest

theorem map_token_locate (p : Position) (pieces : List Piece) (last : List Char) :
    (locate p pieces last).map (·.token) = pieces.map Piece.token ++ [.eof] := by
  induction pieces generalizing p with
  | nil => rfl
  | cons piece pieces ih => simp [locate, ih]

/-- Tokens that were written as a text, in any spellings and with any gaps, are read from it again,
and the end of the text behind them. -/
theorem tokenize_writes (tokens : List Token) (pieces : List Piece) (last : List Char)
    (written : Writes pieces last tokens) :
    ∃ located, tokenize (String.ofList (textOf pieces ++ last)) = .ok located ∧
      located.map (·.token) = tokens ++ [.eof] := by
  refine ⟨locate .start pieces last, ?_, ?_⟩
  · rw [tokenize, String.toList_ofList, cut_of_writes written]
  · rw [map_token_locate, written.tokens]

def noted : List Piece :=
  [⟨[], ['x'], .identifier "x"⟩, ⟨[' ', '\t'], ['='], .assign⟩,
    ⟨[' '], "'it\\'s\\n#\\\\'".toList, .text "it's\n#\\"⟩, ⟨" # 'one".toList, ['\n'], .newline⟩,
    ⟨[' '], "01.50".toList, .decimal (Decimal.ofDigits ['0', '1'] ['5', '0'])⟩]

theorem tokenize_writes_noted :
    let tokens : List Token :=
      [.identifier "x", .assign, .text "it's\n#\\", .newline,
        .decimal (Decimal.ofDigits ['0', '1'] ['5', '0'])]
    Writes noted "#".toList tokens ∧
      ∃ located, tokenize (String.ofList (textOf noted ++ "#".toList)) = .ok located ∧
        located.map (·.token) = tokens ++ [.eof] := by
  intro tokens
  have free : ¬ IsKeyword "x" := by
    rintro (h | h | ⟨u, h⟩ | ⟨r, h⟩)
    · exact absurd h (by decide)
    · exact absurd h (by decide)
    · cases u <;> exact absurd h (by decide)
    · cases r <;> exact absurd h (by decide)
  have spelled : ∀ piece ∈ noted, Spells piece.lexeme piece.token := by
    simp only [noted, List.forall_mem_cons, List.not_mem_nil, false_implies, implies_true, and_true]
    have letter : Unicode.isAlphabetic 'x' = true := by decide +kernel
    refine ⟨@Spells.identifier 'x' [] (.inl letter) (by simp) free, .assign, ?_, .newline, ?_⟩
    · exact Spells.text "it's\n#\\" (.inr rfl)
    · have digits : ['0', '1', '5', '0'].all Decimal.isDigit = true := by decide
      exact @Spells.decimal ['0', '1'] ['5', '0'] (by decide) (List.all_eq_true.mp digits)
  have nothing (rest : List Char) : IsGap [] rest :=
    ⟨[], [], rfl, List.forall_mem_nil _, .inl rfl⟩
  have space : ∀ c ∈ [' '], c ≠ '\n' ∧ Unicode.isBlank c = true :=
    List.forall_mem_singleton.mpr (by decide)
  have tab : ∀ c ∈ ['\t'], c ≠ '\n' ∧ Unicode.isBlank c = true :=
    List.forall_mem_singleton.mpr (by decide)
  have blank (rest : List Char) : IsGap [' '] rest := ⟨[' '], [], rfl, space, .inl rfl⟩
  have gaps : GapsOf noted "#".toList := by
    refine ⟨nothing _, ?_, blank _, ⟨[' '], "# 'one".toList, rfl, space, .inr ?_⟩, blank _,
      ⟨[], "#".toList, rfl, List.forall_mem_nil _, .inr ?_⟩⟩
    · exact ⟨[' ', '\t'], [], rfl, List.forall_mem_append.mpr ⟨space, tab⟩, .inl rfl⟩
    · exact ⟨" 'one".toList, rfl, by decide +kernel, .inr ⟨_, rfl⟩⟩
    · exact ⟨[], rfl, by decide +kernel, .inl rfl⟩
  have written : Writes noted "#".toList tokens := ⟨rfl, spelled, gaps, by simp [noted]⟩
  exact ⟨written, tokenize_writes tokens noted "#".toList written⟩

end SeriesScript.Lexer

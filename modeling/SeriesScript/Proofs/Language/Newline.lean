import SeriesScript.Proofs.Language.Partition

/-!
# Cutting at a newline

No lexeme reaches over the end of a text into what is added behind it, if this begins with a
character that belongs to no number and no word, such as a newline; and a newline ends a comment as
well. So a text that can be cut is cut in the same way with more lines below it, and these lines are
cut as they are on their own.
-/
namespace SeriesScript.Lexer

variable {c d : Char} {cs below last : List Char} {pieces : List Piece}

/-! ## Gaps and lexemes -/

/-- A character that continues no number and no word. -/
structure Stops (d : Char) : Prop where
  digit : Decimal.isDigit d = false
  word : isWordPart d = false
  point : d ≠ '.'

theorem stops_newline : Stops '\n' := ⟨by decide, by decide +kernel, by decide⟩

theorem takeWhile_stop {p : Char → Bool} (h : p d = false) (cs below : List Char) :
    (cs ++ d :: below).takeWhile p = cs.takeWhile p := by
  induction cs with
  | nil => simp [h]
  | cons c cs ih => simp only [List.cons_append, List.takeWhile_cons, ih]

theorem dropWhile_stop {p : Char → Bool} (h : p d = false) (cs below : List Char) :
    (cs ++ d :: below).dropWhile p = cs.dropWhile p ++ d :: below := by
  induction cs with
  | nil => simp [h]
  | cons c cs ih =>
    simp only [List.cons_append, List.dropWhile_cons, ih]
    split <;> rfl

theorem splitGap_newline (inside : Bool) (cs below : List Char) :
    splitGap inside (cs ++ '\n' :: below) =
      ((splitGap inside cs).1, (splitGap inside cs).2 ++ '\n' :: below) := by
  fun_induction splitGap inside cs with
  | case1 inside => cases inside <;> simp [splitGap]
  | case2 => simp [splitGap]
  | case3 c cs newline gap rest hs ih => simp [splitGap, newline, ih, hs]
  | case4 cs gap rest hs ih => simp [splitGap, ih, hs]
  | case5 c cs hash blank gap rest hs ih => simp [splitGap, hash, blank, ih, hs]
  | case6 c cs hash blank => simp [splitGap, hash, blank]

theorem eq_of_splitGap {inside : Bool} {gap : List Char} (h : splitGap inside cs = (gap, [])) :
    gap = cs := by
  simpa [h] using splitGap_append inside cs

/-- A gap that a lexeme follows ends there, whatever stands behind. -/
theorem splitGap_behind {inside : Bool} {gap rest : List Char}
    (h : splitGap inside cs = (gap, c :: rest)) (more : List Char) :
    splitGap inside (cs ++ more) = (gap, c :: rest ++ more) := by
  fun_induction splitGap inside cs generalizing gap with
  | case1 => cases h
  | case2 =>
    cases h
    simp [splitGap]
  | case3 d cs newline gap' rest' hs ih =>
    cases h
    simp [splitGap, newline, ih hs]
  | case4 cs gap' rest' hs ih =>
    cases h
    simp [splitGap, ih hs]
  | case5 d cs hash blank gap' rest' hs ih =>
    cases h
    simp [splitGap, hash, blank, ih hs]
  | case6 d cs hash blank =>
    cases h
    simp [splitGap, hash, blank]

def Reading.extend (more : List Char) (r : Reading) : Reading := ⟨r.token, r.body, r.rest ++ more⟩

/-- A point at the end of a text is part of no number, if no digit follows. -/
theorem readFraction_stop (stops : Stops d) (cs below : List Char) :
    readFraction (cs ++ d :: below) =
      (readFraction cs).map fun (fraction, rest) => (fraction, rest ++ d :: below) := by
  match cs with
  | [] => simp [readFraction, stops.point]
  | [c] =>
    by_cases point : c = '.'
    · simp [point, readFraction, stops.digit]
    · simp [point, readFraction]
  | c :: e :: rest =>
    by_cases point : c = '.'
    · simp only [point, List.cons_append, readFraction, takeWhile_stop stops.digit,
        dropWhile_stop stops.digit]
      split <;> rfl
    · simp [point, readFraction]

theorem readNumber_stop (stops : Stops d) (c : Char) (cs below : List Char) :
    readNumber c (cs ++ d :: below) = (readNumber c cs).map (Reading.extend (d :: below)) := by
  simp only [readNumber, takeWhile_stop stops.digit, dropWhile_stop stops.digit,
    readFraction_stop stops]
  cases readFraction (cs.dropWhile Decimal.isDigit) with
  | some found => rfl
  | none =>
    simp only [Option.map_none]
    cases integerToken (c :: cs.takeWhile Decimal.isDigit) <;> rfl

theorem readLexeme_stop {r : Reading} (stops : Stops d) (h : readLexeme c cs = .ok r)
    (below : List Char) : readLexeme c (cs ++ d :: below) = .ok (r.extend (d :: below)) := by
  unfold readLexeme at h ⊢
  by_cases digit : Decimal.isDigit c = true
  · rw [if_pos digit] at h ⊢
    rw [readNumber_stop stops, h]
    rfl
  rw [if_neg digit] at h ⊢
  by_cases quote : c = '"' ∨ c = '\''
  · rw [if_pos quote] at h ⊢
    split at h
    · rename_i value body rest hq
      cases h
      rw [← readQuoted_append hq, List.append_assoc, readQuoted_body hq]
      rfl
    · cases h
  rw [if_neg quote] at h ⊢
  by_cases word : isWordStart c = true
  · rw [if_pos word] at h ⊢
    cases h
    simp only [readWord, takeWhile_stop stops.word, dropWhile_stop stops.word, Reading.extend]
  rw [if_neg word] at h ⊢
  split at h
  · cases h
    rfl
  · cases h

theorem readLexeme_newline (below : List Char) :
    readLexeme '\n' below = .ok ⟨.newline, [], below⟩ := by
  have word : isWordStart '\n' = false := by decide +kernel
  simp [readLexeme, stops_newline.digit, word, Token.ofSign?]

/-! ## Cuts -/

def Piece.newline (gap : List Char) : Piece := ⟨gap, ['\n'], .newline⟩

/-- What comes of a text, given what comes of all of it but its first piece. -/
def Piece.before (piece : Piece) :
    Except Failure (List Piece × List Char) → Except Failure (List Piece × List Char)
  | .ok (pieces, last) => .ok (piece :: pieces, last)
  | .error failure => .error ⟨piece.text ++ failure.read, failure.fault⟩

theorem cut_eq_before {gap rest : List Char} {r : Reading}
    (hs : splitGap false cs = (gap, c :: rest)) (hl : readLexeme c rest = .ok r) :
    cut cs = Piece.before ⟨gap, c :: r.body, r.token⟩ (cut r.rest) := by
  rw [cut]
  split
  · simp_all
  · split
    · simp_all
    · rename_i gap' c' rest' hgap r' hlexeme
      obtain ⟨rfl, rfl, rfl⟩ : gap = gap' ∧ c = c' ∧ rest = rest' := by simp_all
      cases hl.symm.trans hlexeme
      split <;> simp_all [Piece.before, Piece.text]

/-- The pieces of a text stand before those of what follows, the last gap of the text included. -/
theorem cut_stop (stops : Stops d) (h : cut cs = .ok (pieces, last)) (below : List Char) :
    cut (cs ++ d :: below) = pieces.foldr Piece.before (cut (last ++ d :: below)) := by
  fun_induction cut cs generalizing pieces last with
  | case1 cs gap hs =>
    cases h
    rw [eq_of_splitGap hs, List.foldr_nil]
  | case2 => cases h
  | case3 => cases h
  | case4 cs gap c rest hs r hl pieces' last' hc ih =>
    cases h
    rw [cut_eq_before (splitGap_behind hs _) (readLexeme_stop stops hl below), List.foldr_cons,
      ← ih hc]
    rfl

theorem splitGap_last (h : cut cs = .ok (pieces, last)) : splitGap false last = (last, []) := by
  fun_induction cut cs generalizing pieces last with
  | case1 cs gap hs =>
    cases h
    obtain rfl := eq_of_splitGap hs
    exact hs
  | case2 => cases h
  | case3 => cases h
  | case4 cs gap c rest hs r hl pieces' last' hc ih =>
    cases h
    exact ih hc

/-- The pieces of a text stand before those of the lines below it. -/
theorem cut_above (h : cut cs = .ok (pieces, last)) (below : List Char) :
    cut (cs ++ '\n' :: below) =
      (pieces ++ [Piece.newline last]).foldr Piece.before (cut below) := by
  have ends : splitGap false (last ++ '\n' :: below) = (last, '\n' :: below) := by
    simp [splitGap_newline, splitGap_last h]
  rw [cut_stop stops_newline h, cut_eq_before ends (readLexeme_newline below), List.foldr_append]
  rfl

theorem textOf_append (ps qs : List Piece) : textOf (ps ++ qs) = textOf ps ++ textOf qs :=
  List.flatMap_append

theorem foldr_before_ok (ps pieces : List Piece) (last : List Char) :
    ps.foldr Piece.before (.ok (pieces, last)) = .ok (ps ++ pieces, last) := by
  induction ps with
  | nil => rfl
  | cons p ps ih => rw [List.foldr_cons, ih, Piece.before, List.cons_append]

theorem foldr_before_error (ps : List Piece) (failure : Failure) :
    ps.foldr Piece.before (.error failure) = .error ⟨textOf ps ++ failure.read, failure.fault⟩ := by
  induction ps with
  | nil => rfl
  | cons p ps ih => rw [List.foldr_cons, ih, Piece.before, textOf_cons, List.append_assoc]

/-! ## Places -/

def locateLexemes (p : Position) : List Piece → List Located
  | [] => []
  | piece :: pieces =>
    let start := p.after piece.gap
    ⟨piece.token, piece.span start⟩ :: locateLexemes (start.after piece.lexeme) pieces

theorem locate_append (p : Position) (ps qs : List Piece) (last : List Char) :
    locate p (ps ++ qs) last = locateLexemes p ps ++ locate (p.after (textOf ps)) qs last := by
  induction ps generalizing p with
  | nil => rfl
  | cons piece ps ih =>
    simp only [List.cons_append, locate, locateLexemes, ih, textOf_cons, Piece.text,
      Position.after_append]

theorem token_mem_of_mem_locateLexemes {p : Position} {t : Located}
    (h : t ∈ locateLexemes p pieces) : ∃ piece ∈ pieces, t.token = piece.token := by
  induction pieces generalizing p with
  | nil => cases h
  | cons piece pieces ih =>
    rcases List.mem_cons.mp h with rfl | h
    · exact ⟨piece, List.mem_cons_self, rfl⟩
    · obtain ⟨other, mem, eq⟩ := ih h
      exact ⟨other, List.mem_cons_of_mem _ mem, eq⟩

theorem exists_eof_of_tokenize {source : String} {tokens : List Located}
    (h : tokenize source = .ok tokens) : ∃ t ∈ tokens, t.token = .eof := by
  unfold tokenize at h
  split at h
  · rename_i pieces last hc
    cases h
    have ends := locate_append .start pieces [] last
    rw [List.append_nil] at ends
    exact ⟨_, ends ▸ List.mem_append_right _ List.mem_cons_self, rfl⟩
  · cases h

end SeriesScript.Lexer

import SeriesScript.Proofs.Language.Writing
import SeriesScript.Value

/-!
# Reading a quoted text

The display of a text quotes it, and a script can take the quoted text in. A script knows no escapes
but those of the quote, the backslash, the newline and the tab: behind any other backslash it reads
what stands there. So a quoted text is always read as one text, and it is the same text exactly if
its other characters are shown as they are.
-/
namespace SeriesScript

namespace Text

variable {c : Char}

/-- A character that is quoted as it is, or by an escape that scripts know. -/
def IsShown (c : Char) : Prop :=
  quoteChar c = [c] ∨
    quoteChar c ∈ [['\\', '"'], ['\\', '\\'], ['\\', 'n'], ['\\', 't']]

instance (c : Char) : Decidable (IsShown c) := inferInstanceAs (Decidable (_ ∨ _))

/-- What a script reads where a character was quoted. -/
def readAs (c : Char) : List Char := if IsShown c then [c] else (quoteChar c).tail

def codePoint (c : Char) : List Char := 'u' :: '\x7b' :: (hexDigits c.toNat ++ ['\x7d'])

def named : List Char := ['"', '\\', '\n', '\r', '\t', '\x00']

theorem quoteChar_cases (c : Char) :
    c ∈ named ∨ quoteChar c = '\\' :: codePoint c ∨ c ∉ named ∧ quoteChar c = [c] := by
  by_cases known : c ∈ named
  · exact .inl known
  have others := known
  simp only [named, List.mem_cons, List.not_mem_nil, or_false, not_or] at others
  by_cases invisible : Unicode.isInvisible c = true
  · exact .inr (.inl (by simp [quoteChar, codePoint, others, invisible]))
  · exact .inr (.inr ⟨known, by simp [quoteChar, others, invisible]⟩)

theorem not_isShown_of_codePoint (h : quoteChar c = '\\' :: codePoint c) : ¬ IsShown c := by
  simp [IsShown, h, codePoint]

theorem mem_hexDigits {n : Nat} (h : c ∈ hexDigits n) : ∃ d, c = Nat.digitChar d := by
  induction n using Nat.strongRecOn with
  | ind n ih =>
    rw [hexDigits, Nat.toDigits_eq_if (by decide)] at h
    split at h
    · exact ⟨n, List.mem_singleton.mp h⟩
    · rename_i large
      rcases List.mem_append.mp h with high | low
      · exact ih (n / 16) (by omega) high
      · exact ⟨n % 16, List.mem_singleton.mp low⟩

end Text

namespace Lexer

open Text

variable {c : Char}

theorem Reads.codePoint (c : Char) : Reads '"' ('\\' :: codePoint c) (codePoint c) := by
  have each : ∀ d ∈ hexDigits c.toNat, Reads '"' [d] [d] := by
    intro d mem
    obtain ⟨n, rfl⟩ := mem_hexDigits mem
    exact .plain (Nat.digitChar_ne '"' rfl) (Nat.digitChar_ne '\n' rfl)
      (Nat.digitChar_ne '\\' rfl)
  have digits : Reads '"' (hexDigits c.toNat) (hexDigits c.toNat) := by
    simpa using Reads.flatMap each
  have opens : Reads '"' ['\x7b'] ['\x7b'] := .plain (by decide) (by decide) (by decide)
  have closes : Reads '"' ['\x7d'] ['\x7d'] := .plain (by decide) (by decide) (by decide)
  exact (Reads.escape (by decide) 'u').append (opens.append (digits.append closes))

/-- A quoted character is read as itself or without its backslash. -/
theorem reads_quoteChar (c : Char) : Reads '"' (quoteChar c) (readAs c) := by
  rcases quoteChar_cases c with known | escaped | ⟨unknown, shown⟩
  · simp only [named, List.mem_cons, List.not_mem_nil, or_false] at known
    rcases known with rfl | rfl | rfl | rfl | rfl | rfl <;> exact .escape (by decide) _
  · rw [readAs, if_neg (not_isShown_of_codePoint escaped), escaped]
    exact .codePoint c
  · rw [readAs, if_pos (.inl shown), shown]
    simp only [named, List.mem_cons, List.not_mem_nil, or_false, not_or] at unknown
    exact .plain unknown.1 unknown.2.2.1 unknown.2.1

theorem readQuoted_quoteChars (content : List Char) :
    readQuoted '"' (content.flatMap quoteChar ++ ['"']) =
      some (content.flatMap readAs, content.flatMap quoteChar ++ ['"'], []) := by
  have closing : readQuoted '"' ['"'] = some ([], ['"'], []) := rfl
  have read := Reads.flatMap (fun c (_ : c ∈ content) => reads_quoteChar c) _ _ _ _ closing
  simpa using read

theorem exists_tokens_of_cut {source : String} {pieces : List Piece} {last : List Char}
    (h : cut source.toList = .ok (pieces, last)) :
    ∃ located, tokenize source = .ok located ∧
      located.map (·.token) = pieces.map Piece.token ++ [.eof] :=
  ⟨locate .start pieces last, by rw [tokenize, h], map_token_locate .start pieces last⟩

theorem tokenize_quote (s : String) :
    ∃ located, tokenize (Text.quote s) = .ok located ∧
      located.map (·.token) = [.text (String.ofList (s.toList.flatMap readAs)), .eof] := by
  have read : readLexeme '"' (s.toList.flatMap quoteChar ++ ['"']) =
      .ok ⟨.text (String.ofList (s.toList.flatMap readAs)),
        s.toList.flatMap quoteChar ++ ['"'], []⟩ := by
    have digit : Decimal.isDigit '"' = false := by decide
    simp [readLexeme, digit, readQuoted_quoteChars]
  have start : StartsLexeme '"' := ⟨by decide, .inr (by decide)⟩
  have pieces := cut_of_readLexeme (splitGap_of_startsLexeme start _) read (cut_of_gap rfl)
  have text : (Text.quote s).toList = '"' :: (s.toList.flatMap quoteChar ++ ['"']) := by
    rw [Text.quote, String.toList_ofList, quoteChars, List.cons_append]
  rw [← text] at pieces
  obtain ⟨located, tokenized, tokens⟩ := exists_tokens_of_cut pieces
  exact ⟨located, tokenized, tokens⟩

/-! ## Shown characters -/

theorem readAs_of_isShown (h : IsShown c) : readAs c = [c] := if_pos h

theorem readAs_cases (c : Char) : IsShown c ∨ readAs c ≠ [] ∧ readAs c ≠ [c] := by
  rcases quoteChar_cases c with known | escaped | ⟨-, shown⟩
  · simp only [named, List.mem_cons, List.not_mem_nil, or_false] at known
    rcases known with rfl | rfl | rfl | rfl | rfl | rfl <;> decide
  · right
    rw [readAs, if_neg (not_isShown_of_codePoint escaped), escaped]
    simp [codePoint]
  · exact .inl (.inl shown)

theorem readAs_ne_nil (c : Char) : readAs c ≠ [] := by
  rcases readAs_cases c with shown | ⟨some, -⟩
  · simp [readAs_of_isShown shown]
  · exact some

theorem readAs_eq_iff : readAs c = [c] ↔ IsShown c :=
  ⟨fun same => (readAs_cases c).resolve_right fun other => other.2 same, readAs_of_isShown⟩

theorem length_le_flatMap_readAs (content : List Char) :
    content.length ≤ (content.flatMap readAs).length := by
  induction content with
  | nil => simp
  | cons c content ih =>
    have first := List.length_pos_iff.mpr (readAs_ne_nil c)
    simp only [List.flatMap_cons, List.length_append, List.length_cons]
    omega

/-- A text is read as itself only if each of its characters is. Something is read of every
character, so one that is read as several leaves too few for the others. -/
theorem flatMap_readAs_eq_iff {content : List Char} :
    content.flatMap readAs = content ↔ ∀ c ∈ content, IsShown c := by
  induction content with
  | nil => simp
  | cons c content ih =>
    rw [List.forall_mem_cons, ← ih, ← readAs_eq_iff, List.flatMap_cons]
    constructor
    · intro same
      have long := length_le_flatMap_readAs content
      cases first : readAs c with
      | nil => exact absurd first (readAs_ne_nil c)
      | cons d more =>
        rw [first, List.cons_append, List.cons.injEq] at same
        obtain ⟨rfl, behind⟩ := same
        have none : more = [] := by
          have lengths := congrArg List.length behind
          rw [List.length_append] at lengths
          exact List.length_eq_zero_iff.mp (by omega)
        subst none
        exact ⟨rfl, behind⟩
    · rintro ⟨first, others⟩
      rw [first, others]
      rfl

/-- The display of a text is read as that text exactly if all of its characters are shown as they
are or by an escape that scripts know. -/
theorem tokenize_display (s : String) :
    (∃ located, tokenize (Value.text s).render = .ok located ∧
      located.map (·.token) = [.text s, .eof]) ↔ ∀ c ∈ s.toList, IsShown c := by
  obtain ⟨located, read, tokens⟩ := tokenize_quote s
  rw [← flatMap_readAs_eq_iff]
  constructor
  · rintro ⟨located', read', tokens'⟩
    have same : located' = located := Except.ok.inj (read'.symm.trans read)
    rw [same, tokens] at tokens'
    have texts : String.ofList (s.toList.flatMap readAs) = s := by simpa using tokens'
    simpa using congrArg String.toList texts
  · intro shown
    refine ⟨located, read, ?_⟩
    rw [tokens, shown, String.ofList_toList]

example : IsShown '\t' ∧ ¬ IsShown '\r' := by decide

end Lexer

end SeriesScript

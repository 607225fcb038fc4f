import SeriesScript.Proofs.Language.Partition
import SeriesScript.Proofs.Unicode.Classes

/-!
# Spellings

A keyword or a sign is written in one way, a number with any leading zeros, a text in either quote.
A spelling gives its token back wherever a blank, a comment or the end of the text follows, for none
of these continues a lexeme.
-/
namespace SeriesScript.Lexer

variable {c quote : Char} {body lexeme rest digits fraction : List Char} {t : Token}

def IsKeyword (word : String) : Prop :=
  word = "var" ∨ word = "print" ∨ (∃ u : TimeUnit, word = u.keyword) ∨
    ∃ r : Reduction, word = r.keyword

def escape (quote c : Char) : List Char :=
  if c = '\n' then ['\\', 'n'] else if c = '\\' ∨ c = quote then ['\\', c] else [c]

inductive Spells : List Char → Token → Prop
  | var : Spells "var".toList .var
  | print : Spells "print".toList .print
  | unit (u : TimeUnit) : Spells u.keyword.toList (.unit u)
  | reduction (r : Reduction) : Spells r.keyword.toList (.reduction r)
  | identifier {c : Char} {body : List Char}
      (start : Unicode.isAlphabetic c = true ∨ c = '_')
      (parts : ∀ d ∈ body, Unicode.isAlphabetic d = true ∨ Unicode.isNumeric d = true ∨ d = '_')
      (free : ¬ IsKeyword (String.ofList (c :: body))) :
      Spells (c :: body) (.identifier (String.ofList (c :: body)))
  | integer {digits : List Char} (written : digits ≠ [])
      (all : ∀ d ∈ digits, Decimal.isDigit d = true)
      (fits : Nat.ofDigitChars 10 digits 0 ≤ 9223372036854775807) :
      Spells digits (.integer (.ofNat (Nat.ofDigitChars 10 digits 0)))
  | decimal {whole fraction : List Char} (written : whole ≠ [] ∧ fraction ≠ [])
      (all : ∀ d ∈ whole ++ fraction, Decimal.isDigit d = true) :
      Spells (whole ++ '.' :: fraction)
        (.decimal (.ofScientific (Nat.ofDigitChars 10 (whole ++ fraction) 0) true fraction.length))
  | text {quote : Char} (s : String) (quotes : quote = '"' ∨ quote = '\'') :
      Spells (quote :: (s.toList.flatMap (escape quote) ++ [quote])) (.text s)
  | assign : Spells ['='] .assign
  | plus : Spells ['+'] .plus
  | minus : Spells ['-'] .minus
  | star : Spells ['*'] .star
  | slash : Spells ['/'] .slash
  | leftParen : Spells ['('] .leftParen
  | rightParen : Spells [')'] .rightParen
  | comma : Spells [','] .comma
  | newline : Spells ['\n'] .newline

/-! ## Ends and starts of lexemes -/

/-- The rest of a text begins with nothing that continues a lexeme: it is empty, or begins with a
blank, a comment or a newline. -/
def EndsLexeme (rest : List Char) : Prop := ∀ c ∈ rest.head?, c = '#' ∨ Unicode.isBlank c = true

def StartsLexeme (c : Char) : Prop := c ≠ '#' ∧ (c = '\n' ∨ Unicode.isBlank c = false)

/-- A class of characters that the end of a lexeme belongs to none of. -/
def EndsClass (p : Char → Bool) : Prop := ∀ c, c = '#' ∨ Unicode.isBlank c = true → p c = false

theorem endsClass_isDigit : EndsClass Decimal.isDigit := by
  rintro c (rfl | blank)
  · decide
  · by_contra digit
    rw [Decimal.isBlank_of_isDigit (by simpa using digit)] at blank
    cases blank

theorem endsClass_isWordPart : EndsClass isWordPart := by
  rintro c (rfl | blank)
  · decide +kernel
  · have underscore : c ≠ '_' := by
      rintro rfl
      exact absurd blank (by decide)
    simp [isWordPart, isWordStart, Unicode.isAlphabetic_of_isBlank blank,
      Unicode.isNumeric_of_isBlank blank, underscore]

theorem EndsLexeme.takeWhile_append {p : Char → Bool} (ends : EndsLexeme rest) (cls : EndsClass p)
    (all : ∀ d ∈ body, p d = true) : (body ++ rest).takeWhile p = body := by
  have stop : rest.takeWhile p = [] := by
    cases rest with
    | nil => rfl
    | cons c rest => exact List.takeWhile_cons_of_neg (by simp [cls c (ends c rfl)])
  rw [List.takeWhile_append_of_pos all, stop, List.append_nil]

theorem EndsLexeme.dropWhile_append {p : Char → Bool} (ends : EndsLexeme rest) (cls : EndsClass p)
    (all : ∀ d ∈ body, p d = true) : (body ++ rest).dropWhile p = rest := by
  rw [List.dropWhile_append_of_pos all]
  cases rest with
  | nil => rfl
  | cons c rest => exact List.dropWhile_cons_of_neg (by simp [cls c (ends c rfl)])

/-! ## Words -/

def isWord : List Char → Bool
  | [] => false
  | c :: body => isWordStart c && body.all isWordPart

theorem isDigit_of_isWordStart (h : isWordStart c = true) : Decimal.isDigit c = false := by
  by_contra digit
  have letter := Decimal.isAlphabetic_of_isDigit (c := c) (by simpa using digit)
  have underscore : c = '_' := by simpa [isWordStart, letter] using h
  subst underscore
  exact digit (by decide)

theorem startsLexeme_of_isWordStart (h : isWordStart c = true) : StartsLexeme c := by
  constructor
  · rintro rfl
    exact absurd h (by decide +kernel)
  · right
    by_contra blank
    have part := endsClass_isWordPart c (.inr (by simpa using blank))
    simp [isWordPart, h] at part

/-- A spelling whose token is read back, whatever ends the lexeme. -/
def ReadBack (lexeme : List Char) (t : Token) : Prop :=
  ∃ c body, lexeme = c :: body ∧ StartsLexeme c ∧
    ∀ rest, EndsLexeme rest → readLexeme c (body ++ rest) = .ok ⟨t, body, rest⟩

theorem readBack_word (h : isWord lexeme = true) :
    ReadBack lexeme (Token.ofWord (String.ofList lexeme)) := by
  cases lexeme with
  | nil => cases h
  | cons c body =>
    obtain ⟨start, parts⟩ := Bool.and_eq_true_iff.mp h
    refine ⟨c, body, rfl, startsLexeme_of_isWordStart start, fun rest ends => ?_⟩
    have quote : ¬ (c = '"' ∨ c = '\'') := by
      rintro (rfl | rfl) <;> exact absurd start (by decide +kernel)
    have all := List.all_eq_true.mp parts
    rw [readLexeme, if_neg (by simp [isDigit_of_isWordStart start]), if_neg quote, if_pos start,
      readWord, ends.takeWhile_append endsClass_isWordPart all,
      ends.dropWhile_append endsClass_isWordPart all]

theorem ofWord_of_not_isKeyword {word : String} (h : ¬ IsKeyword word) :
    Token.ofWord word = .identifier word := by
  simp only [IsKeyword, not_or, not_exists] at h
  obtain ⟨var, print, unit, reduction⟩ := h
  have noUnit : TimeUnit.ofKeyword? word = none :=
    List.find?_eq_none.mpr fun u _ => by simpa using Ne.symm (unit u)
  have noReduction : Reduction.ofKeyword? word = none :=
    List.find?_eq_none.mpr fun r _ => by simpa using Ne.symm (reduction r)
  simp [Token.ofWord, var, print, noUnit, noReduction]

/-! ## Signs -/

theorem readBack_sign (sign : Token.ofSign? c = some t) (digit : Decimal.isDigit c = false)
    (word : isWordStart c = false) (start : StartsLexeme c) : ReadBack [c] t := by
  refine ⟨c, [], rfl, start, fun rest _ => ?_⟩
  have quote : ¬ (c = '"' ∨ c = '\'') := by rintro (rfl | rfl) <;> cases sign
  simp [readLexeme, digit, quote, word, sign]

/-! ## Numbers -/

theorem startsLexeme_of_isDigit (h : Decimal.isDigit c = true) : StartsLexeme c := by
  constructor
  · rintro rfl
    exact absurd h (by decide)
  · exact .inr (Decimal.isBlank_of_isDigit h)

theorem EndsLexeme.readFraction (ends : EndsLexeme rest) : readFraction rest = none := by
  cases rest with
  | nil => rfl
  | cons c rest =>
    have point : c ≠ '.' := by
      rintro rfl
      exact absurd (ends '.' rfl) (by decide)
    simp [Lexer.readFraction, point]

theorem readBack_integer (written : digits ≠ []) (all : ∀ d ∈ digits, Decimal.isDigit d = true)
    (fits : Nat.ofDigitChars 10 digits 0 ≤ maxInteger) :
    ReadBack digits (.integer (.ofNat (Nat.ofDigitChars 10 digits 0))) := by
  cases digits with
  | nil => exact absurd rfl written
  | cons c body =>
    obtain ⟨digit, others⟩ := List.forall_mem_cons.mp all
    refine ⟨c, body, rfl, startsLexeme_of_isDigit digit, fun rest ends => ?_⟩
    simp [readLexeme, digit, readNumber, ends.takeWhile_append endsClass_isDigit others,
      ends.dropWhile_append endsClass_isDigit others, ends.readFraction, integerToken,
      Decimal.natOfDigits, fits]

theorem EndsLexeme.readFraction_point (ends : EndsLexeme rest) (written : fraction ≠ [])
    (all : ∀ d ∈ fraction, Decimal.isDigit d = true) :
    Lexer.readFraction ('.' :: (fraction ++ rest)) = some (fraction, rest) := by
  cases fraction with
  | nil => exact absurd rfl written
  | cons d body =>
    obtain ⟨digit, others⟩ := List.forall_mem_cons.mp all
    simp [Lexer.readFraction, digit, ends.takeWhile_append endsClass_isDigit others,
      ends.dropWhile_append endsClass_isDigit others]

theorem ofDigits_eq (whole : List Char) (written : fraction ≠ []) :
    Decimal.ofDigits whole fraction =
      .ofScientific (Nat.ofDigitChars 10 (whole ++ fraction) 0) true fraction.length := by
  have length := List.length_pos_iff.mpr written
  have below : -(fraction.length : Int) < 0 := by omega
  rw [Decimal.ofDigits, Decimal.nearest, if_pos below, Int.natAbs_neg, Int.natAbs_natCast]
  rfl

theorem readBack_decimal {whole : List Char} (written : whole ≠ [] ∧ fraction ≠ [])
    (all : ∀ d ∈ whole ++ fraction, Decimal.isDigit d = true) :
    ReadBack (whole ++ '.' :: fraction)
      (.decimal (.ofScientific (Nat.ofDigitChars 10 (whole ++ fraction) 0) true fraction.length)) := by
  rw [← ofDigits_eq whole written.2]
  obtain ⟨wholeDigits, fractionDigits⟩ := List.forall_mem_append.mp all
  cases whole with
  | nil => exact absurd rfl written.1
  | cons c body =>
    obtain ⟨digit, others⟩ := List.forall_mem_cons.mp wholeDigits
    refine ⟨c, body ++ '.' :: fraction, rfl, startsLexeme_of_isDigit digit, fun rest ends => ?_⟩
    have point : Decimal.isDigit '.' = false := by decide
    simp [readLexeme, digit, readNumber, List.takeWhile_append_of_pos others,
      List.dropWhile_append_of_pos others, point, ends.readFraction_point written.2 fractionDigits]

/-! ## Texts -/

/-- What is read of some characters in a quoted text, whatever follows them. -/
def Reads (quote : Char) (written read : List Char) : Prop :=
  ∀ rest value body after, readQuoted quote rest = some (value, body, after) →
    readQuoted quote (written ++ rest) = some (read ++ value, written ++ body, after)

theorem Reads.nil : Reads quote [] [] := fun _ _ _ _ h => h

theorem Reads.append {written written' read read' : List Char} (h : Reads quote written read)
    (h' : Reads quote written' read') : Reads quote (written ++ written') (read ++ read') := by
  intro rest value body after found
  simpa using h _ _ _ _ (h' _ _ _ _ found)

theorem Reads.flatMap {write read : Char → List Char} {content : List Char}
    (each : ∀ c ∈ content, Reads quote (write c) (read c)) :
    Reads quote (content.flatMap write) (content.flatMap read) := by
  induction content with
  | nil => exact .nil
  | cons c content ih =>
    obtain ⟨first, others⟩ := List.forall_mem_cons.mp each
    exact first.append (ih others)

theorem Reads.plain (closed : c ≠ quote) (line : c ≠ '\n') (slash : c ≠ '\\') :
    Reads quote [c] [c] := by
  intro rest value body after found
  rw [List.singleton_append, readQuoted.eq_def]
  simp [closed, line, slash, found]

theorem Reads.escape (slash : quote ≠ '\\') (c : Char) : Reads quote ['\\', c] [unescape c] := by
  intro rest value body after found
  simp [readQuoted, slash.symm, found]

theorem reads_escape (quotes : quote = '"' ∨ quote = '\'') (c : Char) :
    Reads quote (escape quote c) [c] := by
  have slash : quote ≠ '\\' := by rcases quotes with rfl | rfl <;> decide
  have itself : unescape quote = quote := by rcases quotes with rfl | rfl <;> rfl
  by_cases newline : c = '\n'
  · subst newline
    exact .escape slash 'n'
  by_cases back : c = '\\'
  · subst back
    exact .escape slash '\\'
  by_cases closing : c = quote
  · subst closing
    rw [Lexer.escape, if_neg newline, if_pos (.inr rfl)]
    simpa [itself] using Reads.escape slash c
  · rw [Lexer.escape, if_neg newline, if_neg (not_or.mpr ⟨back, closing⟩)]
    exact .plain closing newline back

theorem readQuoted_flatMap_escape (quotes : quote = '"' ∨ quote = '\'') (content rest : List Char) :
    readQuoted quote (content.flatMap (escape quote) ++ quote :: rest) =
      some (content, content.flatMap (escape quote) ++ [quote], rest) := by
  have closing : readQuoted quote (quote :: rest) = some ([], [quote], rest) := by
    rw [readQuoted.eq_def]
    simp
  have read := Reads.flatMap (fun c (_ : c ∈ content) => reads_escape quotes c) _ _ _ _ closing
  simpa using read

theorem readBack_text (quotes : quote = '"' ∨ quote = '\'') (s : String) :
    ReadBack (quote :: (s.toList.flatMap (escape quote) ++ [quote])) (.text s) := by
  have digit : Decimal.isDigit quote = false := by rcases quotes with rfl | rfl <;> decide
  have start : StartsLexeme quote := by
    rcases quotes with rfl | rfl <;> exact ⟨by decide, .inr (by decide)⟩
  refine ⟨quote, _, rfl, start, fun rest ends => ?_⟩
  simp [readLexeme, digit, quotes, readQuoted_flatMap_escape quotes]

theorem Spells.readBack (h : Spells lexeme t) : ReadBack lexeme t := by
  cases h with
  | var => exact readBack_word (by decide +kernel)
  | print => exact readBack_word (by decide +kernel)
  | unit u =>
    have word := readBack_word (show isWord u.keyword.toList = true by cases u <;> decide +kernel)
    have token : Token.ofWord u.keyword = .unit u := by cases u <;> rfl
    rwa [String.ofList_toList, token] at word
  | reduction r =>
    have word := readBack_word (show isWord r.keyword.toList = true by cases r <;> decide +kernel)
    have token : Token.ofWord r.keyword = .reduction r := by cases r <;> rfl
    rwa [String.ofList_toList, token] at word
  | identifier start parts free =>
    rw [← ofWord_of_not_isKeyword free]
    refine readBack_word (Bool.and_eq_true_iff.mpr ⟨?_, List.all_eq_true.mpr fun d mem => ?_⟩)
    · simpa [isWordStart, or_comm] using start
    · have := parts d mem
      simp only [isWordPart, isWordStart, Bool.or_eq_true, beq_iff_eq]
      tauto
  | integer written all fits => exact readBack_integer written all fits
  | decimal written all => exact readBack_decimal written all
  | text s quotes => exact readBack_text quotes s
  | _ => exact readBack_sign rfl (by decide) (by decide +kernel) ⟨by decide, by decide⟩

end SeriesScript.Lexer

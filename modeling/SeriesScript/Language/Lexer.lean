import SeriesScript.Decimal.Dyadic
import SeriesScript.Language.SyntaxError
import SeriesScript.Unicode.Classes

/-!
# From text to tokens

A text is cut into pieces, each a gap followed by a lexeme, and a last gap. A gap holds blanks and
comments; a newline is never part of a gap, for it ends a statement. The cut does not depend on
where the text stands: positions are counted afterwards, over the characters of the pieces.
-/
namespace SeriesScript.Lexer

def isWordStart (c : Char) : Bool := c == '_' || Unicode.isAlphabetic c

def isWordPart (c : Char) : Bool := isWordStart c || Unicode.isNumeric c

/-- The blanks and comments at the head of a text, and what follows them. The flag tells whether the
text starts inside a comment; a comment reaches to the end of its line. -/
def splitGap : Bool → List Char → List Char × List Char
  | _, [] => ([], [])
  | true, c :: cs =>
    if c = '\n' then ([], c :: cs)
    else let (gap, rest) := splitGap true cs; (c :: gap, rest)
  | false, c :: cs =>
    if c = '#' then let (gap, rest) := splitGap true cs; (c :: gap, rest)
    else if c ≠ '\n' ∧ Unicode.isBlank c then
      let (gap, rest) := splitGap false cs; (c :: gap, rest)
    else ([], c :: cs)

theorem splitGap_append (inside : Bool) (cs : List Char) :
    (splitGap inside cs).1 ++ (splitGap inside cs).2 = cs := by
  fun_induction splitGap inside cs <;> simp_all

/-- The token read at the head of a text, the characters of its lexeme after the first one, and what
follows the lexeme. -/
structure Reading where
  token : Token
  body : List Char
  rest : List Char

def unescape : Char → Char
  | 'n' => '\n'
  | 't' => '\t'
  | c => c

/-- The content of a quoted text from after its opening quote, the characters up to and including
the closing quote, and what follows. A backslash takes the next character with it; a newline that is
not taken ends the search. -/
def readQuoted (quote : Char) : List Char → Option (List Char × List Char × List Char)
  | [] => none
  | c :: cs =>
    if c = quote then some ([], [c], cs)
    else if c = '\n' then none
    else if c = '\\' then
      match cs with
      | [] => none
      | e :: rest =>
        match readQuoted quote rest with
        | some (value, body, after) => some (unescape e :: value, c :: e :: body, after)
        | none => none
    else
      match readQuoted quote cs with
      | some (value, body, after) => some (c :: value, c :: body, after)
      | none => none

def maxInteger : Nat := 9223372036854775807

def integerToken (digits : List Char) : Except SyntaxFault Token :=
  let n := Decimal.natOfDigits digits
  if n ≤ maxInteger then .ok (.integer (.ofNat n)) else .error (.integerTooLarge (String.ofList digits))

/-- The point and digits that make a decimal of the integer before them. A point without a digit
after it is not part of the number. -/
def readFraction : List Char → Option (List Char × List Char)
  | '.' :: d :: rest =>
    if Decimal.isDigit d then
      some (d :: rest.takeWhile Decimal.isDigit, rest.dropWhile Decimal.isDigit)
    else none
  | _ => none

def readNumber (c : Char) (cs : List Char) : Except SyntaxFault Reading :=
  let whole := cs.takeWhile Decimal.isDigit
  let rest := cs.dropWhile Decimal.isDigit
  match readFraction rest with
  | some (fraction, after) =>
    .ok ⟨.decimal (Decimal.ofDigits (c :: whole) fraction), whole ++ '.' :: fraction, after⟩
  | none =>
    match integerToken (c :: whole) with
    | .ok token => .ok ⟨token, whole, rest⟩
    | .error fault => .error fault

def readWord (c : Char) (cs : List Char) : Reading :=
  let body := cs.takeWhile isWordPart
  ⟨Token.ofWord (String.ofList (c :: body)), body, cs.dropWhile isWordPart⟩

/-- The token at the head of a text that starts with no gap. -/
def readLexeme (c : Char) (cs : List Char) : Except SyntaxFault Reading :=
  if Decimal.isDigit c then readNumber c cs
  else if c = '"' ∨ c = '\'' then
    match readQuoted c cs with
    | some (value, body, rest) => .ok ⟨.text (String.ofList value), body, rest⟩
    | none => .error .unterminatedText
  else if isWordStart c then .ok (readWord c cs)
  else
    match Token.ofSign? c with
    | some token => .ok ⟨token, [], cs⟩
    | none => .error (.unexpectedCharacter c)

theorem readQuoted_append {quote : Char} {cs value body rest : List Char}
    (h : readQuoted quote cs = some (value, body, rest)) : body ++ rest = cs := by
  fun_induction readQuoted quote cs generalizing value body rest <;> simp_all <;> grind

theorem readFraction_append {cs fraction rest : List Char}
    (h : readFraction cs = some (fraction, rest)) : '.' :: fraction ++ rest = cs := by
  unfold readFraction at h
  split at h
  · split at h
    · simp only [Option.some.injEq, Prod.mk.injEq] at h
      obtain ⟨rfl, rfl⟩ := h
      simp [List.takeWhile_append_dropWhile]
    · simp at h
  · simp at h

theorem readNumber_append {c : Char} {cs : List Char} {r : Reading}
    (h : readNumber c cs = .ok r) : r.body ++ r.rest = cs := by
  unfold readNumber at h
  simp only at h
  split at h
  · rename_i fraction after hf
    cases h
    have := readFraction_append hf
    simp only [List.append_assoc]
    rw [this, List.takeWhile_append_dropWhile]
  · split at h
    · cases h
      exact List.takeWhile_append_dropWhile
    · cases h

/-- A lexeme and what follows it make up the text. -/
theorem readLexeme_append {c : Char} {cs : List Char} {r : Reading}
    (h : readLexeme c cs = .ok r) : r.body ++ r.rest = cs := by
  unfold readLexeme at h
  split at h
  · exact readNumber_append h
  · split at h
    · split at h
      · cases h
        exact readQuoted_append (by assumption)
      · cases h
    · split at h
      · cases h
        exact List.takeWhile_append_dropWhile
      · split at h
        · cases h
          rfl
        · cases h

/-- A lexeme with the gap before it. -/
structure Piece where
  gap : List Char
  lexeme : List Char
  token : Token

/-- A text that cannot be cut further: what was read of it, and why the rest starts with no
lexeme. -/
structure Failure where
  read : List Char
  fault : SyntaxFault

/-- The pieces of a text and its last gap. -/
def cut (cs : List Char) : Except Failure (List Piece × List Char) :=
  match _hgap : splitGap false cs with
  | (gap, []) => .ok ([], gap)
  | (gap, c :: rest) =>
    match _hlexeme : readLexeme c rest with
    | .error fault => .error ⟨gap, fault⟩
    | .ok r =>
      match cut r.rest with
      | .error failure => .error ⟨gap ++ c :: r.body ++ failure.read, failure.fault⟩
      | .ok (pieces, last) => .ok (⟨gap, c :: r.body, r.token⟩ :: pieces, last)
termination_by cs.length
decreasing_by
  have h₁ := congrArg List.length (readLexeme_append _hlexeme)
  have h₂ := congrArg List.length (splitGap_append false cs)
  simp only [_hgap, List.length_append, List.length_cons] at h₁ h₂
  omega

/-- The span of a lexeme. A newline ends on the line that it ends. -/
def Piece.span (start : Position) (piece : Piece) : Span :=
  ⟨start,
    if piece.token.isNewline then ⟨start.line, start.column + 1⟩ else start.after piece.lexeme⟩

/-- The tokens of the pieces from a position on, and the end of the text behind the last gap. -/
def locate (p : Position) : List Piece → List Char → List Located
  | [], last => [⟨.eof, ⟨p.after last, p.after last⟩⟩]
  | piece :: pieces, last =>
    let start := p.after piece.gap
    ⟨piece.token, piece.span start⟩ :: locate (start.after piece.lexeme) pieces last

def tokenize (source : String) : Except SyntaxError (List Located) :=
  match cut source.toList with
  | .ok (pieces, last) => .ok (locate .start pieces last)
  | .error failure => .error ⟨failure.fault, Position.start.after failure.read⟩

end SeriesScript.Lexer

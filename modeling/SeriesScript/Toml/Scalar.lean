import SeriesScript.Calendar.Rfc3339
import SeriesScript.Toml.Text

/-!
# Numbers and times in TOML

Numbers, dates and times are checked and not kept: each reader gives what follows the literal at the
head of a text. A literal that is not well formed in full is cut short, and what is left of it
follows no value.
-/
namespace SeriesScript.Toml
open Rfc3339 (readDigits readChar readColon)

/-- Digits with single underscores between them. -/
def isSpaced : List Char → Bool
  | [] => false
  | '_' :: _ => false
  | [_] => true
  | _ :: '_' :: cs => isSpaced cs
  | _ :: cs => isSpaced cs

/-- The digits at the head of a text, without the underscores between them. -/
def readSpaced (isDigit : Char → Bool) (cs : List Char) : Option (List Char × List Char) :=
  let run := cs.takeWhile fun c => isDigit c || c == '_'
  if isSpaced run then some (run.filter isDigit, cs.drop run.length) else none

def readSign : List Char → Bool × List Char
  | '+' :: cs => (false, cs)
  | '-' :: cs => (true, cs)
  | cs => (false, cs)

def largestInteger : Nat := 9223372036854775807

def baseOf? : Char → Option (Nat × (Char → Bool))
  | 'x' => some (16, fun c => (Json.hexValue? c).isSome)
  | 'o' => some (8, fun c => '0' ≤ c && c ≤ '7')
  | 'b' => some (2, fun c => c == '0' || c == '1')
  | _ => none

/-- An integer in base 16, 8 or 2. -/
def skipBased : List Char → Option (List Char)
  | '0' :: letter :: cs => do
    let (base, isDigit) ← baseOf? letter
    let (digits, rest) ← readSpaced isDigit cs
    let values ← digits.mapM Json.hexValue?
    if values.foldl (fun (n d : Nat) => n * base + d) 0 ≤ largestInteger then some rest else none
  | _ => none

/-- The digits before the point of a number: a zero, or digits that do not start with one. -/
def readWhole (cs : List Char) : Option (List Char × List Char) :=
  match cs with
  | '0' :: rest => some (['0'], rest)
  | _ => readSpaced Decimal.isDigit cs

/-- The digits behind the point, none if there is no point. -/
def readPoint : List Char → Option (List Char × List Char)
  | '.' :: cs => readSpaced Decimal.isDigit cs
  | cs => some ([], cs)

def isExponentMark (c : Char) : Bool := c == 'e' || c == 'E'

/-- The exponent, zero if there is none. -/
def readExponent : List Char → Option (Int × List Char)
  | c :: cs =>
    if isExponentMark c then do
      let (negative, cs) := readSign cs
      let (digits, rest) ← readSpaced Decimal.isDigit cs
      let n : Int := Decimal.natOfDigits digits
      return (if negative then -n else n, rest)
    else some (0, c :: cs)
  | [] => some (0, [])

/-- Whether a float is too large. One with a leading digit far from the limit is not computed. -/
def overflows (digits : List Char) (exponent : Int) : Bool :=
  let kept := digits.dropWhile (· == '0')
  if kept.isEmpty then false
  else
    let lead := kept.length + exponent
    if lead ≤ -400 then false
    else if 400 ≤ lead then true
    else Decimal.nearest (Decimal.natOfDigits kept) exponent == 1 / 0

/-- A decimal integer in the range of 64 bits, or a float; too large a positive float is refused. -/
def skipDecimal (cs : List Char) : Option (List Char) := do
  let (negative, cs) := readSign cs
  let (whole, afterWhole) ← readWhole cs
  let (fraction, afterPoint) ← readPoint afterWhole
  let (exponent, rest) ← readExponent afterPoint
  if rest.length = afterWhole.length then
    let n := Decimal.natOfDigits whole
    if n ≤ largestInteger + (if negative then 1 else 0) then some rest else none
  else if !negative && overflows (whole ++ fraction) (exponent - fraction.length) then none
  else some rest

/-- The words for an infinity and for no number, with or without a sign. -/
def skipSpecial (cs : List Char) : Option (List Char) :=
  match (readSign cs).2 with
  | 'i' :: 'n' :: 'f' :: rest => some rest
  | 'n' :: 'a' :: 'n' :: rest => some rest
  | _ => none

def skipNumber (cs : List Char) : Option (List Char) :=
  skipBased cs <|> skipDecimal cs <|> skipSpecial cs

/-- A date with four digits for the year. -/
def skipDate (cs : List Char) : Option (List Char) := do
  let (year, cs) ← readDigits 4 4 cs
  let (_, cs) ← readChar '-' cs
  let (month, cs) ← readDigits 2 2 cs
  let (_, cs) ← readChar '-' cs
  let (day, cs) ← readDigits 2 2 cs
  if (Calendar.dayOfDate? year month day).isSome then some cs else none

/-- A time of day with seconds, of which the sixtieth may be an inserted one. -/
def skipClock (cs : List Char) : Option (List Char) := do
  let (hour, cs) ← readDigits 2 2 cs
  let (_, cs) ← readChar ':' cs
  let (minute, cs) ← readDigits 2 2 cs
  let (_, cs) ← readChar ':' cs
  let (second, cs) ← readDigits 2 2 cs
  let (_, cs) ← Rfc3339.readFraction cs
  if hour ≤ 23 ∧ minute ≤ 59 ∧ second ≤ 60 then some cs else none

/-- What follows an offset from universal time, if there is one. Its sign is an ASCII character. -/
def skipOffset (cs : List Char) : List Char :=
  match cs.head?, Rfc3339.readOffset readColon cs with
  | some '\u2212', _ => cs
  | _, some (_, rest) => rest
  | _, none => cs

/-- A date, a date with a time of day and an optional offset, or a time of day. -/
def skipMoment (cs : List Char) : Option (List Char) :=
  match skipDate cs with
  | none => skipClock cs
  | some rest =>
    match Rfc3339.readSeparator rest with
    | none => some rest
    | some (_, time) =>
      match skipClock time with
      | some after => some (skipOffset after)
      | none => some rest

end SeriesScript.Toml

import SeriesScript.Calendar.Timestamp
import SeriesScript.Decimal.Dyadic
import SeriesScript.Unicode.Classes

/-!
# Timestamps as text

The internet format of dates and times: a date, the letter T, a time of day and an offset. The
strict form has fields of fixed width. The relaxed form, used in data files, allows blanks and
shorter fields, years with a sign, and the word UTC as an offset.
-/
namespace SeriesScript.Rfc3339

/-- A reader takes what it reads from the head of a text and leaves the rest. -/
abbrev Reader (α : Type) := List Char → Option (α × List Char)

def skipBlanks (cs : List Char) : List Char := cs.dropWhile Unicode.isBlank

def readDigits (least most : Nat) : Reader Nat := fun cs =>
  let digits := (cs.take most).takeWhile Decimal.isDigit
  if least ≤ digits.length then some (Decimal.natOfDigits digits, cs.drop digits.length) else none

def readChar (wanted : Char) : Reader Unit
  | c :: cs => if c = wanted then some ((), cs) else none
  | [] => none

/-- The letter T, of either case, or a space. -/
def readSeparator : Reader Unit
  | c :: cs => if c = 'T' ∨ c = 't' ∨ c = ' ' then some ((), cs) else none
  | [] => none

/-- The nanoseconds of a fraction of a second, none if there is no point. Digits beyond the ninth
are passed over. -/
def readFraction : Reader Nat
  | '.' :: cs =>
    let digits := cs.takeWhile Decimal.isDigit
    if digits.isEmpty then none
    else
      let kept := digits.take 9
      some (Decimal.natOfDigits kept * Decimal.tenTo (9 - kept.length), cs.drop digits.length)
  | cs => some (0, cs)

def offsetOf? (negative : Bool) (hours minutes : Nat) : Option Int :=
  if hours ≤ 23 ∧ minutes ≤ 59 then
    let seconds : Int := hours * 3600 + minutes * 60
    some (if negative then -seconds else seconds)
  else none

def isZulu (c : Char) : Bool := c == 'Z' || c == 'z'

def readSignedOffset (negative : Bool) (between : List Char → Option (List Char)) : Reader Int :=
  fun cs => do
    let (hours, cs) ← readDigits 2 2 cs
    let cs ← between cs
    let (minutes, cs) ← readDigits 2 2 cs
    let offset ← offsetOf? negative hours minutes
    return (offset, cs)

/-- A hyphen, or the minus sign of typography. -/
def isMinus (c : Char) : Bool := c == '-' || c == '\u2212'

/-- The letter Z, or a sign with hours and minutes; the function takes what stands between these. -/
def readOffset (between : List Char → Option (List Char)) : Reader Int
  | [] => none
  | c :: cs =>
    if isZulu c then some (0, cs)
    else if c = '+' then readSignedOffset false between cs
    else if isMinus c then readSignedOffset true between cs
    else none

def assemble (year : Int) (month day hour minute second nanos : Nat) (offset : Int) :
    Option Timestamp := do
  let date ← Calendar.dayOfDate? year month day
  if hour ≤ 23 ∧ minute ≤ 59 ∧ second ≤ 59 then
    let seconds : Int := hour * 3600 + minute * 60 + second
    Timestamp.ofClock? (date * nanosPerDay + seconds * nanosPerSecond + nanos) offset
  else none

def readColon (cs : List Char) : Option (List Char) := (readChar ':' cs).map (·.2)

/-- The strict form; nothing stands before or behind it. -/
def parse? (text : List Char) : Option Timestamp := do
  let (year, cs) ← readDigits 4 4 text
  let (_, cs) ← readChar '-' cs
  let (month, cs) ← readDigits 2 2 cs
  let (_, cs) ← readChar '-' cs
  let (day, cs) ← readDigits 2 2 cs
  let (_, cs) ← readSeparator cs
  let (hour, cs) ← readDigits 2 2 cs
  let (_, cs) ← readChar ':' cs
  let (minute, cs) ← readDigits 2 2 cs
  let (_, cs) ← readChar ':' cs
  let (second, cs) ← readDigits 2 2 cs
  let (nanos, cs) ← readFraction cs
  let (offset, cs) ← readOffset readColon cs
  if cs.isEmpty then assemble year month day hour minute second nanos offset else none

/-- A year of at most four digits, or of any number of digits behind a sign. -/
def readYear : Reader Int
  | '+' :: cs => (readDigits 1 cs.length cs).map fun (n, rest) => ((n : Int), rest)
  | '-' :: cs => (readDigits 1 cs.length cs).map fun (n, rest) => (-(n : Int), rest)
  | cs => (readDigits 1 4 cs).map fun (n, rest) => ((n : Int), rest)

def readField : Reader Nat := fun cs => readDigits 1 2 (skipBlanks cs)

def readMark (c : Char) : Reader Unit := fun cs => readChar c (skipBlanks cs)

/-- The word UTC in letters of any case, or an offset with an optional separator. -/
def readRelaxedOffset : Reader Int := fun cs =>
  if (cs.take 3).map Char.toLower = ['u', 't', 'c'] then some (0, cs.drop 3)
  else
    readOffset (fun cs => some (cs.dropWhile fun c => c == ':' || Unicode.isBlank c)) cs

/-- The relaxed form; blanks may stand before and behind it. -/
def parseRelaxed? (text : List Char) : Option Timestamp := do
  let (year, cs) ← readYear (skipBlanks text)
  let (_, cs) ← readMark '-' cs
  let (month, cs) ← readField cs
  let (_, cs) ← readMark '-' cs
  let (day, cs) ← readField cs
  let (_, cs) ← readSeparator cs
  let (hour, cs) ← readField cs
  let (_, cs) ← readMark ':' cs
  let (minute, cs) ← readField cs
  let (_, cs) ← readMark ':' cs
  let (second, cs) ← readField cs
  let (nanos, cs) ← readFraction cs
  let (offset, cs) ← readRelaxedOffset (skipBlanks cs)
  if (skipBlanks cs).isEmpty then assemble year month day hour minute second nanos offset else none

/-- A number with leading zeros up to a width. -/
def padded (width n : Nat) : List Char :=
  let digits := Nat.toDigits 10 n
  List.replicate (width - digits.length) '0' ++ digits

/-- Four digits at least, and a sign outside the years 0 to 9999. -/
def yearText (year : Int) : List Char :=
  if 0 ≤ year ∧ year ≤ 9999 then padded 4 year.toNat
  else (if year < 0 then '-' else '+') :: padded 4 year.natAbs

def dateText (day : Int) : List Char :=
  let month := Calendar.monthOf day
  yearText (month / 12) ++ '-' :: padded 2 (month % 12 + 1).toNat ++
    '-' :: padded 2 (Calendar.dayOfMonth day + 1).toNat

def clockText (seconds : Nat) : List Char :=
  padded 2 (seconds / 3600) ++ ':' :: padded 2 (seconds / 60 % 60) ++ ':' :: padded 2 (seconds % 60)

/-- The fewest of no, three, six and nine digits that are exact. -/
def fractionText (nanos : Nat) : List Char :=
  if nanos = 0 then []
  else if nanos % 1000000 = 0 then '.' :: padded 3 (nanos / 1000000)
  else if nanos % 1000 = 0 then '.' :: padded 6 (nanos / 1000)
  else '.' :: padded 9 nanos

def offsetText (offset : Int) : List Char :=
  (if offset < 0 then '-' else '+') :: padded 2 (offset.natAbs / 3600) ++
    ':' :: padded 2 (offset.natAbs / 60 % 60)

def clockDateText (clock : Int) : List Char :=
  dateText (clock / nanosPerDay) ++ 'T' ::
    clockText (clock % nanosPerDay / nanosPerSecond).toNat

/-- The text of a timestamp; the flag asks for the letter Z in place of a zero offset. -/
def render (zulu : Bool) (t : Timestamp) : String :=
  String.ofList (clockDateText t.clock ++ fractionText (t.clock % nanosPerSecond).toNat ++
    (if zulu ∧ t.offset = 0 then ['Z'] else offsetText t.offset))

/-- The text of a local time with all nine digits of its fraction. -/
def renderClock (clock : Int) : String :=
  String.ofList (clockDateText clock ++ '.' :: padded 9 (clock % nanosPerSecond).toNat)

end SeriesScript.Rfc3339

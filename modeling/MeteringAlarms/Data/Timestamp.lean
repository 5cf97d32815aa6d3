import MeteringAlarms.Data.Digits

/-!
# Points in time

A timestamp counts seconds from the start of 1970 in universal time, and nanoseconds within the
second; a leap second is the second before it with a further thousand million nanoseconds. The
written form is `YYYY-MM-DDThh:mm:ss`, a fraction of three, six or nine digits if it is not zero,
and `Z`. Reading takes that form with any offset and is lenient about blanks and leading zeros.
-/

namespace MeteringAlarms

structure Timestamp where
  seconds : Int
  nanoseconds : Nat
  deriving DecidableEq

namespace Timestamp

/-- The day count from 1970-01-01 of a date in the proleptic Gregorian calendar. -/
def daysOfDate (year : Int) (month day : Nat) : Int :=
  -- Years begin in March, so that the leap day ends one.
  let y := if month ≤ 2 then year - 1 else year
  let era := y / 400
  let yearOfEra := y - era * 400
  let monthFromMarch : Int := (month + 9) % 12
  let dayOfYear := (153 * monthFromMarch + 2) / 5 + day - 1
  let dayOfEra := yearOfEra * 365 + yearOfEra / 4 - yearOfEra / 100 + dayOfYear
  era * 146097 + dayOfEra - 719468

/-- The year, month and day of a day count. -/
def dateOfDays (days : Int) : Int × Nat × Nat :=
  let z := days + 719468
  let era := z / 146097
  let dayOfEra := z - era * 146097
  let yearOfEra := (dayOfEra - dayOfEra / 1460 + dayOfEra / 36524 - dayOfEra / 146096) / 365
  let dayOfYear := dayOfEra - (365 * yearOfEra + yearOfEra / 4 - yearOfEra / 100)
  let monthFromMarch := (5 * dayOfYear + 2) / 153
  let day := dayOfYear - (153 * monthFromMarch + 2) / 5 + 1
  let month := if monthFromMarch < 10 then monthFromMarch + 3 else monthFromMarch - 9
  let year := yearOfEra + era * 400 + if month ≤ 2 then 1 else 0
  (year, month.toNat, day.toNat)

def isLeapYear (year : Int) : Bool :=
  year % 4 = 0 && (year % 100 ≠ 0 || year % 400 = 0)

def daysInMonth (year : Int) (month : Nat) : Nat :=
  match month with
  | 2 => if isLeapYear year then 29 else 28
  | 4 | 6 | 9 | 11 => 30
  | _ => 31

/-- Years are written with four digits, and outside `0` to `9999` with a sign. -/
def yearChars (year : Int) : List Char :=
  if 0 ≤ year ∧ year ≤ 9999 then Digits.padded 4 year.toNat
  else (if year < 0 then '-' else '+') :: Digits.padded 4 year.natAbs

/-- The fraction in the fewest of zero, three, six or nine digits that is exact. -/
def fractionChars (nanoseconds : Nat) : List Char :=
  if nanoseconds = 0 then []
  else if nanoseconds % 1000000 = 0 then '.' :: Digits.padded 3 (nanoseconds / 1000000)
  else if nanoseconds % 1000 = 0 then '.' :: Digits.padded 6 (nanoseconds / 1000)
  else '.' :: Digits.padded 9 nanoseconds

def toChars (time : Timestamp) : List Char :=
  let days := time.seconds / 86400
  let secondOfDay := (time.seconds - days * 86400).toNat
  let (year, month, day) := dateOfDays days
  let leap := time.nanoseconds / 1000000000
  yearChars year ++ '-' :: Digits.padded 2 month ++ '-' :: Digits.padded 2 day ++
    'T' :: Digits.padded 2 (secondOfDay / 3600) ++
    ':' :: Digits.padded 2 (secondOfDay / 60 % 60) ++
    ':' :: Digits.padded 2 (secondOfDay % 60 + leap) ++
    fractionChars (time.nanoseconds % 1000000000) ++ ['Z']

def toText (time : Timestamp) : String :=
  String.ofList time.toChars

/-- The characters with the white-space property. -/
def isBlank (c : Char) : Bool :=
  let n := c.toNat
  (9 ≤ n && n ≤ 13) || n = 0x20 || n = 0x85 || n = 0xA0 || n = 0x1680 ||
    (0x2000 ≤ n && n ≤ 0x200A) || n = 0x2028 || n = 0x2029 || n = 0x202F || n = 0x205F || n = 0x3000

def skipBlanks (cs : List Char) : List Char :=
  cs.dropWhile isBlank

/-- One to `width` digits, after any blanks. -/
def readField (width : Nat) (cs : List Char) : Option (Nat × List Char) :=
  let cs := skipBlanks cs
  match (cs.take width).takeWhile Char.isDigit with
  | [] => none
  | digits => some (Digits.ofDecimal digits, cs.drop digits.length)

/-- A field within bounds. -/
def readBounded (low high : Nat) (cs : List Char) : Option (Nat × List Char) := do
  let (n, cs) ← readField 2 cs
  if low ≤ n ∧ n ≤ high then some (n, cs) else none

/-- A year of up to four digits, or of any number of digits after a sign. -/
def readYear (cs : List Char) : Option (Int × List Char) :=
  let cs := skipBlanks cs
  match cs with
  | '-' :: rest => if (rest.head?.map Char.isDigit).getD false then
      (readField rest.length rest).map fun (n, cs) ↦ (-(n : Int), cs) else none
  | '+' :: rest => if (rest.head?.map Char.isDigit).getD false then
      (readField rest.length rest).map fun (n, cs) ↦ ((n : Int), cs) else none
  | _ => (readField 4 cs).map fun (n, cs) ↦ ((n : Int), cs)

/-- The separator of two fields, blanks before it allowed. -/
def readMark (mark : Char) (cs : List Char) : Option (List Char) :=
  match skipBlanks cs with
  | c :: rest => if c = mark then some rest else none
  | [] => none

/-- The nanoseconds of an optional fraction; digits after the ninth do not count. -/
def readFraction (cs : List Char) : Option (Nat × List Char) :=
  match cs with
  | '.' :: rest =>
    match rest.takeWhile Char.isDigit with
    | [] => none
    | digits =>
      let kept := digits.take 9
      some (Digits.ofDecimal kept * Nat.pow 10 (9 - kept.length), rest.drop digits.length)
  | _ => some (0, cs)

def readTwoDigits : List Char → Option (Nat × List Char)
  | a :: b :: rest => if a.isDigit && b.isDigit then some (Digits.ofDecimal [a, b], rest) else none
  | _ => none

/-- An offset from universal time in seconds: `Z`, `UTC`, or hours and minutes after a sign. -/
def readOffset (cs : List Char) : Option (Int × List Char) :=
  match skipBlanks cs with
  | [] => none
  | c :: rest =>
    if (c :: rest.take 2).map Char.toUpper = ['U', 'T', 'C'] then some (0, rest.drop 2)
    else if c = 'Z' ∨ c = 'z' then some (0, rest)
    else do
      let sign : Int ←
        if c = '+' then some 1 else if c = '-' ∨ c.toNat = 0x2212 then some (-1) else none
      let (hours, rest) ← readTwoDigits rest
      let (minutes, rest) ← readTwoDigits (rest.dropWhile fun c ↦ c = ':' || isBlank c)
      if minutes < 60 ∧ hours < 24 then
        some (sign * ((hours * 3600 + minutes * 60 : Nat) : Int), rest)
      else none

/-- The years that a timestamp can lie in. -/
def yearInRange (year : Int) : Bool :=
  -262143 ≤ year && year ≤ 262142

/-- The timestamp lies in these years in universal time, too. -/
def inRange (time : Timestamp) : Bool :=
  let days := time.seconds / 86400
  daysOfDate (-262143) 1 1 ≤ days && days ≤ daysOfDate 262142 12 31

def ofChars? (cs : List Char) : Option Timestamp := do
  let (year, cs) ← readYear cs
  let cs ← readMark '-' cs
  let (month, cs) ← readBounded 1 12 cs
  let cs ← readMark '-' cs
  let (day, cs) ← readBounded 1 31 cs
  let cs ← match cs with
    | c :: rest => if c = 'T' ∨ c = 't' ∨ c = ' ' then some rest else none
    | [] => none
  let (hour, cs) ← readBounded 0 23 cs
  let cs ← readMark ':' cs
  let (minute, cs) ← readBounded 0 59 cs
  let cs ← readMark ':' cs
  let (second, cs) ← readBounded 0 60 cs
  let (nanoseconds, cs) ← readFraction cs
  let (offset, cs) ← readOffset cs
  if (skipBlanks cs).isEmpty ∧ yearInRange year ∧ day ≤ daysInMonth year month then
    let leap := if second = 60 then 1 else 0
    let secondOfDay : Nat := hour * 3600 + minute * 60 + (second - leap)
    let time : Timestamp :=
      ⟨daysOfDate year month day * 86400 + secondOfDay - offset, nanoseconds + leap * 1000000000⟩
    if time.inRange then some time else none
  else none

def ofText? (text : String) : Option Timestamp :=
  ofChars? text.toList

end Timestamp

end MeteringAlarms

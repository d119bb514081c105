import VersionOperator.Text.Blank
import VersionOperator.Text.Natural
import VersionOperator.Time.Instant

/-!
The text of a moment: date and time of day joined by a T, in universal time with a Z. The fraction
of the second has as few digits of 0, 3, 6 and 9 as are exact. A year of other than four digits
carries its sign.

Reading is more generous than writing: numbers may have fewer digits, blanks may stand before the
numbers of the date and of the time, a space may stand for the T, and an offset from universal time
for the Z; digits beyond the ninth of a fraction are dropped.
-/

namespace VersionOperator.Time

open Text

/-- The text of a year: four digits from 0 to 9999, a sign and at least four digits otherwise. -/
def writeYear (year : Int) : List Char :=
  if 0 ≤ year ∧ year ≤ 9999 then paddedDecimal 4 year.toNat
  else (if year < 0 then '-' else '+') :: paddedDecimal 4 year.natAbs

/-- The fraction of a second with its point, in the fewest groups of three digits. -/
def writeFraction (nano : Nat) : List Char :=
  if nano = 0 then []
  else if nano % 1000000 = 0 then '.' :: paddedDecimal 3 (nano / 1000000)
  else if nano % 1000 = 0 then '.' :: paddedDecimal 6 (nano / 1000)
  else '.' :: paddedDecimal 9 nano

/-- The second of the minute and the nanosecond of it that a clock shows; in a leap second it shows
second 60. -/
def clockSecond (t : Instant) : Nat × Nat :=
  if 1000000000 ≤ t.nano then (t.second % 60 + 1, t.nano - 1000000000)
  else (t.second % 60, t.nano)

def write (t : Instant) : String :=
  let (second, nano) := clockSecond t
  String.ofList <|
    writeYear t.date.year ++ '-' :: paddedDecimal 2 t.date.month ++
      '-' :: paddedDecimal 2 t.date.day ++ 'T' :: paddedDecimal 2 (t.second / 3600) ++
      ':' :: paddedDecimal 2 (t.second / 60 % 60) ++ ':' :: paddedDecimal 2 second ++
      writeFraction nano ++ ['Z']

/-- The number of one to `most` digits at the start of a text, and what follows them. -/
def readUpTo? (most : Nat) (cs : List Char) : Option (Nat × List Char) :=
  let digits := (cs.take most).takeWhile Char.isDigit
  if digits = [] then none else some (decimalValue digits, cs.drop digits.length)

def readPair? (cs : List Char) : Option (Nat × List Char) :=
  readUpTo? 2 (trimStart cs)

/-- The year behind blanks: up to four digits, or any number of them behind a sign. -/
def readYear? (cs : List Char) : Option (Int × List Char) :=
  match trimStart cs with
  | '-' :: rest => (readUpTo? rest.length rest).map fun (n, rest) => (-(n : Int), rest)
  | '+' :: rest => (readUpTo? rest.length rest).map fun (n, rest) => ((n : Int), rest)
  | rest => (readUpTo? 4 rest).map fun (n, rest) => ((n : Int), rest)

def expect? (c : Char) (cs : List Char) : Option (List Char) :=
  match trimStart cs with
  | [] => none
  | d :: rest => if d = c then some rest else none

/-- Whether a year is one of the calendar, which ends a little less than 2^18 years before and after
the year zero. -/
def isCalendarYear (year : Int) : Bool :=
  -262143 ≤ year && year ≤ 262142

def readDate? (cs : List Char) : Option (Date × List Char) := do
  let (year, cs) ← readYear? cs
  let cs ← expect? '-' cs
  let (month, cs) ← readPair? cs
  let cs ← expect? '-' cs
  let (day, cs) ← readPair? cs
  if !isCalendarYear year then none
  let date ← Date.of? year month day
  return (date, cs)

def readFraction? : List Char → Option (Nat × List Char)
  | '.' :: cs => do
    let (value, _) ← readUpTo? 9 cs
    let digits := ((cs.take 9).takeWhile Char.isDigit).length
    return (value * Nat.pow 10 (9 - digits), cs.dropWhile Char.isDigit)
  | cs => some (0, cs)

/-- Two digits of an offset: exactly two, and no blanks before them. -/
def readTwoDigits? : List Char → Option (Nat × List Char)
  | a :: b :: rest =>
    if a.isDigit && b.isDigit then some (decimalValue [a, b], rest) else none
  | _ => none

/-- The minutes of an offset behind its sign: two digits of hours and two of minutes, with colons
and blanks between them as they please. -/
def readOffset? (cs : List Char) : Option (Nat × List Char) := do
  let (hours, cs) ← readTwoDigits? cs
  let (minutes, cs) ← readTwoDigits? (cs.dropWhile fun c => c = ':' || isBlank c)
  if 60 ≤ minutes || 24 ≤ hours then none
  return (hours * 60 + minutes, cs)

/-- The minutes by which local time is ahead of universal time, and what follows them. -/
def readZone? (cs : List Char) : Option (Int × List Char) :=
  match cs with
  | [] => none
  | c :: rest =>
    if c = 'Z' || c = 'z' then some (0, rest)
    else if c = '+' then (readOffset? rest).map fun (n, rest) => ((n : Int), rest)
    else if c = '-' || c = '\u2212' then
      (readOffset? rest).map fun (n, rest) => (-(n : Int), rest)
    else if lowerAscii (cs.take 3) = ['u', 't', 'c'] then some (0, cs.drop 3)
    else none

/-- What follows the mark between date and time: a T of either case or a space. -/
def readMark? : List Char → Option (List Char)
  | [] => none
  | c :: rest => if c = 'T' || c = 't' || c = ' ' then some rest else none

/-- The moment that a text names, if it names one. Its year has to be one of the calendar in
universal time too. -/
def read? (s : String) : Option Instant := do
  let (date, cs) ← readDate? s.toList
  let cs ← readMark? cs
  let (hour, cs) ← readPair? cs
  let cs ← expect? ':' cs
  let (minute, cs) ← readPair? cs
  let cs ← expect? ':' cs
  let (second, cs) ← readPair? cs
  let (nano, cs) ← readFraction? cs
  let (ahead, cs) ← readZone? (trimStart cs)
  if trimStart cs ≠ [] then none
  let clock ← Instant.ofClock? date hour minute second nano
  let moment := clock.plusMinutes (-ahead)
  if isCalendarYear moment.date.year then some moment else none

end VersionOperator.Time

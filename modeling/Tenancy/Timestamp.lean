import Tenancy.Text.Blank
import Tenancy.Text.Decimal

namespace Tenancy

/-- A moment in UTC: a day, a second of the day and nanoseconds. Nanoseconds of 10^9 and more mark a
leap second, which follows the second it belongs to. -/
structure Timestamp where
  /-- Days since the first of January 1970. -/
  day : Int
  second : Nat
  nanos : Nat
  deriving DecidableEq, Repr

namespace Timestamp

def isLeapYear (year : Int) : Bool := year % 4 == 0 && (year % 100 != 0 || year % 400 == 0)

def daysIn (year : Int) (month : Nat) : Nat :=
  match month with
  | 2 => if isLeapYear year then 29 else 28
  | 4 | 6 | 9 | 11 => 30
  | _ => 31

/-- Years are counted from March, so that a leap day ends its year. -/
def dayOfDate (year : Int) (month day : Nat) : Int :=
  let y := if month ≤ 2 then year - 1 else year
  let cycle := Int.fdiv y 400
  let yearOfCycle := (y - cycle * 400).toNat
  let dayOfYear := (153 * ((month + 9) % 12) + 2) / 5 + day - 1
  cycle * 146097 + (yearOfCycle * 365 + yearOfCycle / 4 - yearOfCycle / 100 + dayOfYear : Nat) - 719468

def dateOfDay (n : Int) : Int × Nat × Nat :=
  let n := n + 719468
  let cycle := Int.fdiv n 146097
  let d := (n - cycle * 146097).toNat
  let y := (d - d / 1460 + d / 36524 - d / 146096) / 365
  let dayOfYear := d - (365 * y + y / 4 - y / 100)
  let m := (5 * dayOfYear + 2) / 153
  let month := if m < 10 then m + 3 else m - 9
  let year := cycle * 400 + y + if month ≤ 2 then 1 else 0
  (year, month, dayOfYear - (153 * m + 2) / 5 + 1)

/-- Years outside these are refused. -/
def firstYear : Int := -262143
def lastYear : Int := 262142

def inRange (day : Int) : Bool :=
  dayOfDate firstYear 1 1 ≤ day && day ≤ dayOfDate lastYear 12 31

/-- A number of up to `width` digits with blanks before it. -/
def readNumber (width : Nat) (cs : List Char) : Option (Nat × List Char) :=
  let cs := Text.trimStart cs
  let digits := (cs.takeWhile Text.isDigit).take width
  if digits.isEmpty then none else some (Text.value digits, cs.drop digits.length)

/-- Four digits at most, or a sign and any number of them. -/
def readYear (cs : List Char) : Option (Int × List Char) :=
  let signed (cs : List Char) : Option (Nat × List Char) :=
    let digits := cs.takeWhile Text.isDigit
    if digits.isEmpty then none else some (Text.value digits, cs.dropWhile Text.isDigit)
  match Text.trimStart cs with
  | '-' :: rest => (signed rest).map fun (n, rest) => (-(n : Int), rest)
  | '+' :: rest => (signed rest).map fun (n, rest) => ((n : Int), rest)
  | cs => (readNumber 4 cs).map fun (n, rest) => ((n : Int), rest)

/-- The separator, which may have blanks before it. -/
def readMark (mark : Char) (cs : List Char) : Option (List Char) :=
  match Text.trimStart cs with
  | c :: rest => if c == mark then some rest else none
  | [] => none

/-- Digits behind a point, in nanoseconds; digits beyond the ninth do not count. -/
def readFraction (cs : List Char) : Option (Nat × List Char) :=
  match cs with
  | '.' :: rest =>
    let digits := rest.takeWhile Text.isDigit
    if digits.isEmpty then none
    else
      let digits := digits.take 9
      some (Text.value digits * Nat.pow 10 (9 - digits.length), rest.dropWhile Text.isDigit)
  | cs => some (0, cs)

def isOffsetGap (c : Char) : Bool := c == ':' || Text.isBlank c

/-- Two digits of hours and two of minutes behind a sign, in seconds. -/
def readHours (cs : List Char) : Option (Nat × List Char) :=
  match cs with
  | a :: b :: rest =>
    match rest.dropWhile isOffsetGap with
    | c :: d :: rest =>
      if Text.isNumber [a, b, c, d] && c ≤ '5' then
        some (Text.value [a, b] * 3600 + Text.value [c, d] * 60, rest)
      else none
    | _ => none
  | _ => none

/-- The distance from UTC in seconds. The minus sign of typography counts as a hyphen. -/
def readOffset (cs : List Char) : Option (Int × List Char) :=
  match Text.trimStart cs with
  | 'z' :: rest | 'Z' :: rest => some (0, rest)
  | '+' :: rest => (readHours rest).map fun (n, rest) => ((n : Int), rest)
  | '-' :: rest | '−' :: rest => (readHours rest).map fun (n, rest) => (-(n : Int), rest)
  | a :: b :: c :: rest =>
    if String.ofList ([a, b, c].map Char.toLower) == "utc" then some (0, rest) else none
  | _ => none

/-- Date, time and distance from UTC. Blanks may stand around the parts, and a blank in place of
the letter between date and time. -/
def read? (s : String) : Option Timestamp := do
  let (year, rest) ← readYear s.toList
  let rest ← readMark '-' rest
  let (month, rest) ← readNumber 2 rest
  let rest ← readMark '-' rest
  let (day, rest) ← readNumber 2 rest
  let rest ← match rest with
    | 't' :: rest | 'T' :: rest | ' ' :: rest => some rest
    | _ => none
  let (hour, rest) ← readNumber 2 rest
  let rest ← readMark ':' rest
  let (minute, rest) ← readNumber 2 rest
  let rest ← readMark ':' rest
  let (second, rest) ← readNumber 2 rest
  let (fraction, rest) ← readFraction rest
  let (offset, rest) ← readOffset rest
  if !(Text.trimStart rest).isEmpty then none
  if !(1 ≤ month && month ≤ 12 && 1 ≤ day && day ≤ daysIn year month) then none
  if !(hour ≤ 23 && minute ≤ 59 && second ≤ 60) then none
  if !(offset.natAbs < 86400 && firstYear ≤ year && year ≤ lastYear) then none
  let nanos := if second = 60 then fraction + 1_000_000_000 else fraction
  let ofDay : Int := hour * 3600 + minute * 60 + (min second 59 : Nat) - offset
  let utcDay := dayOfDate year month day + Int.fdiv ofDay 86400
  if inRange utcDay then some ⟨utcDay, (Int.fmod ofDay 86400).toNat, nanos⟩ else none

/-- Four digits; a year that needs more, or is negative, has its sign in front. -/
def yearText (year : Int) : String :=
  if 0 ≤ year && year ≤ 9999 then Text.padded 4 year.toNat
  else (if year < 0 then "-" else "+") ++ Text.padded 4 year.natAbs

/-- In groups of three digits, as many as are needed. -/
def fractionText (nanos : Nat) : String :=
  if nanos = 0 then ""
  else if nanos % 1_000_000 = 0 then "." ++ Text.padded 3 (nanos / 1_000_000)
  else if nanos % 1000 = 0 then "." ++ Text.padded 6 (nanos / 1000)
  else "." ++ Text.padded 9 nanos

/-- The leap second is the sixtieth of its minute. -/
def timeText (t : Timestamp) : String :=
  let leap := 1_000_000_000 ≤ t.nanos
  let second := t.second % 60 + if leap then 1 else 0
  let nanos := if leap then t.nanos - 1_000_000_000 else t.nanos
  Text.padded 2 (t.second / 3600) ++ ":" ++ Text.padded 2 (t.second / 60 % 60) ++ ":" ++
    Text.padded 2 second ++ fractionText nanos

def dateText (t : Timestamp) : String :=
  let (year, month, day) := dateOfDay t.day
  yearText year ++ "-" ++ Text.padded 2 month ++ "-" ++ Text.padded 2 day

/-- The form for documents. -/
def write (t : Timestamp) : String := t.dateText ++ "T" ++ t.timeText ++ "Z"

/-- The form for messages. -/
def display (t : Timestamp) : String := t.dateText ++ " " ++ t.timeText ++ " UTC"

/-- Nanoseconds from `past` to `t`. A leap second counts in full where it lies between the two
times of day. -/
def since (t past : Timestamp) : Int :=
  let leap : Int :=
    if past.second < t.second && 1_000_000_000 ≤ past.nanos then 1
    else if t.second < past.second && 1_000_000_000 ≤ t.nanos then -1
    else 0
  ((t.day - past.day) * 86400 + t.second - past.second + leap) * 1_000_000_000 + t.nanos - past.nanos

end Timestamp
end Tenancy

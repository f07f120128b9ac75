import VirtualApi.Decimal.Natural
import VirtualApi.Text.Blank

/-!
# Points in time

A `Timestamp` is a day, a second of that day and a fraction in nanoseconds; the fraction of a leap
second runs on past one second. `Timestamp.parse?` reads the strict form of RFC 3339 and
`Timestamp.parseRelaxed?` a form with shorter numbers and blanks. `elapsedSeconds` counts whole
seconds from one point to another.
-/

namespace VirtualApi

open Text Decimal

/-- A point in time, in UTC. -/
structure Timestamp where
  /-- Days since 1970-01-01. -/
  day : Int
  /-- Seconds since midnight. -/
  second : Nat
  /-- Nanoseconds since the full second, up to two seconds in a leap second. -/
  nano : Nat
deriving DecidableEq, Repr, Inhabited

namespace Timestamp

/-! ## Calendar -/

/-- The year has a 29th of February. -/
def isLeapYear (year : Int) : Bool :=
  (year % 4 = 0 && year % 100 ≠ 0) || year % 400 = 0

/-- The number of days of a month. -/
def daysInMonth (year : Int) (month : Nat) : Nat :=
  if month = 2 then (if isLeapYear year then 29 else 28)
  else if month = 4 ∨ month = 6 ∨ month = 9 ∨ month = 11 then 30 else 31

/-- The number of days from 1970-01-01 to a date. Years start in March, so that the leap day is the
last day of a year. -/
def daysFromDate (year : Int) (month day : Nat) : Int :=
  let y := if month ≤ 2 then year - 1 else year
  let era := Int.fdiv y 400
  let yearOfEra := (y - era * 400).toNat
  let monthFromMarch := (month + 9) % 12
  let dayOfYear := (153 * monthFromMarch + 2) / 5 + day - 1
  let dayOfEra := yearOfEra * 365 + yearOfEra / 4 - yearOfEra / 100 + dayOfYear
  era * 146097 + dayOfEra - 719468

/-- The date that lies so many days after 1970-01-01. -/
def dateOfDays (days : Int) : Int × Nat × Nat :=
  let shifted := days + 719468
  let era := Int.fdiv shifted 146097
  let dayOfEra := (shifted - era * 146097).toNat
  let yearOfEra := (dayOfEra - dayOfEra / 1460 + dayOfEra / 36524 - dayOfEra / 146096) / 365
  let dayOfYear := dayOfEra - (365 * yearOfEra + yearOfEra / 4 - yearOfEra / 100)
  let monthFromMarch := (5 * dayOfYear + 2) / 153
  let day := dayOfYear - (153 * monthFromMarch + 2) / 5 + 1
  let month := if monthFromMarch < 10 then monthFromMarch + 3 else monthFromMarch - 9
  let year : Int := yearOfEra + era * 400
  (if month ≤ 2 then year + 1 else year, month, day)

/-- The first day that is counted, in the year -262143. -/
def firstDay : Int := daysFromDate (-262143) 1 1

/-- The last day that is counted, in the year 262142. -/
def lastDay : Int := daysFromDate 262142 12 31

/-- A day is counted. -/
def isCounted (day : Int) : Bool := firstDay ≤ day && day ≤ lastDay

/-- A point in time by its local date and time and the local time's distance to UTC in seconds. A
second 60 is the leap second after second 59. The day has to be counted in local time as well as in
UTC. -/
def ofLocal? (year : Int) (month day hour minute second nano : Nat) (offset : Int) :
    Option Timestamp :=
  if 1 ≤ month ∧ month ≤ 12 ∧ 1 ≤ day ∧ day ≤ daysInMonth year month ∧ hour < 24 ∧ minute < 60 ∧
      second ≤ 60 then
    let leap := if second = 60 then 1 else 0
    let total : Int := (hour * 3600 + minute * 60 + (second - leap) : Nat) - offset
    let localDay := daysFromDate year month day
    let utcDay := localDay + Int.fdiv total 86400
    if isCounted localDay && isCounted utcDay then
      some {
        day := utcDay
        second := (Int.fmod total 86400).toNat
        nano := nano + leap * 1000000000 }
    else none
  else none

/-! ## Reading -/

/-- Take between `least` and `most` digits as a number. -/
def takeNumber? (least most : Nat) (text : List Char) : Option (Nat × List Char) :=
  let found := (text.take most).takeWhile isDigit
  if least ≤ found.length then some (value found, text.drop found.length) else none

/-- Take exactly this character. -/
def takeChar? (c : Char) : List Char → Option (List Char)
  | d :: rest => if c = d then some rest else none
  | [] => none

/-- Take the fraction of a second after its point: up to nine digits count, the rest are skipped. -/
def takeFraction? (text : List Char) : Option (Nat × List Char) := do
  let (n, rest) ← takeNumber? 1 9 text
  let taken := text.length - rest.length
  some (n * 10 ^ (9 - taken), rest.dropWhile isDigit)

/-- Take an optional fraction of a second. -/
def takeOptionalFraction? : List Char → Option (Nat × List Char)
  | '.' :: rest => takeFraction? rest
  | rest => some (0, rest)

/-- Take what separates the date from the time. -/
def takeSeparator? : List Char → Option (List Char)
  | 'T' :: rest | 't' :: rest | ' ' :: rest => some rest
  | _ => none

/-- Take a distance to UTC in seconds. What may stand between hours and minutes is up to the
caller. -/
def takeOffset? (between : List Char → Option (List Char)) :
    List Char → Option (Int × List Char)
  | 'Z' :: rest | 'z' :: rest => some (0, rest)
  | sign :: rest => do
      let negative ←
        if sign = '+' then some false
        else if sign = '-' ∨ sign = '\u2212' then some true else none
      let (hours, rest) ← takeNumber? 2 2 rest
      let rest ← between rest
      let (minutes, rest) ← takeNumber? 2 2 rest
      if 60 ≤ minutes then none
      else
        let seconds : Int := hours * 3600 + minutes * 60
        some (if negative then -seconds else seconds, rest)
  | [] => none

/-- The greatest distance to UTC is one minute short of a day. -/
def offsetInRange (offset : Int) : Bool := -86340 ≤ offset && offset ≤ 86340

/-- Read the strict form: every number at full width, a separator, and an offset with a colon. -/
def parse? (text : String) : Option Timestamp := do
  let (year, rest) ← takeNumber? 4 4 text.toList
  let rest ← takeChar? '-' rest
  let (month, rest) ← takeNumber? 2 2 rest
  let rest ← takeChar? '-' rest
  let (day, rest) ← takeNumber? 2 2 rest
  let rest ← takeSeparator? rest
  let (hour, rest) ← takeNumber? 2 2 rest
  let rest ← takeChar? ':' rest
  let (minute, rest) ← takeNumber? 2 2 rest
  let rest ← takeChar? ':' rest
  let (second, rest) ← takeNumber? 2 2 rest
  let (nano, rest) ← takeOptionalFraction? rest
  let (offset, rest) ← takeOffset? (takeChar? ':') rest
  if rest = [] ∧ offsetInRange offset then
    ofLocal? year month day hour minute second nano offset
  else none

/-- The text without white space in front. -/
def skipBlank (text : List Char) : List Char := text.dropWhile isBlank

/-- Take a year: four digits at most, or any number of digits after a sign. -/
def takeYear? (text : List Char) : Option (Int × List Char) :=
  match skipBlank text with
  | '-' :: rest => (takeNumber? 1 rest.length rest).map fun (n, rest) => (-(n : Int), rest)
  | '+' :: rest => (takeNumber? 1 rest.length rest).map fun (n, rest) => ((n : Int), rest)
  | rest => (takeNumber? 1 4 rest).map fun (n, rest) => ((n : Int), rest)

/-- Take a number of one or two digits, after blanks. -/
def takeShort? (text : List Char) : Option (Nat × List Char) := takeNumber? 1 2 (skipBlank text)

/-- Read the relaxed form: shorter numbers, blanks between and after the parts, and `UTC` for the
offset. -/
def parseRelaxed? (text : String) : Option Timestamp := do
  let (year, rest) ← takeYear? text.toList
  let rest ← takeChar? '-' (skipBlank rest)
  let (month, rest) ← takeShort? rest
  let rest ← takeChar? '-' (skipBlank rest)
  let (day, rest) ← takeShort? rest
  let rest ← takeSeparator? rest
  let (hour, rest) ← takeShort? rest
  let rest ← takeChar? ':' (skipBlank rest)
  let (minute, rest) ← takeShort? rest
  let rest ← takeChar? ':' (skipBlank rest)
  let (second, rest) ← takeShort? rest
  let (nano, rest) ← takeOptionalFraction? rest
  let rest := skipBlank rest
  let (offset, rest) ←
    if (rest.take 3).map Char.toLower = ['u', 't', 'c'] then some (0, rest.drop 3)
    else takeOffset? (fun r => some (r.dropWhile fun c => c = ':' || isBlank c)) rest
  if skipBlank rest = [] ∧ offsetInRange offset then
    ofLocal? year month day hour minute second nano offset
  else none

/-! ## Order, distance and writing -/

/-- The first point lies before the second. -/
def before (a b : Timestamp) : Bool :=
  a.day < b.day ||
    (a.day = b.day && (a.second < b.second || (a.second = b.second && a.nano < b.nano)))

/-- Whole seconds from one point to a later one, zero when it is not later. A leap second counts
when it lies between the two points of the day. -/
def elapsedSeconds (created now : Timestamp) : Nat :=
  let seconds : Int := (now.second : Int) - created.second
  let leap : Int :=
    if created.second < now.second ∧ 1000000000 ≤ created.nano then 1
    else if now.second < created.second ∧ 1000000000 ≤ now.nano then -1
    else 0
  let carry := Int.fdiv ((now.nano : Int) - created.nano) 1000000000
  ((now.day - created.day) * 86400 + seconds + leap + carry).toNat

/-- A number with leading zeros up to a width. -/
def padded (width n : Nat) : List Char :=
  let ds := digits n
  List.replicate (width - ds.length) '0' ++ ds

/-- A year: four digits, or a sign and at least four digits outside `0` to `9999`. -/
def yearText (year : Int) : List Char :=
  if year < 0 then '-' :: padded 4 year.natAbs
  else if 9999 < year then '+' :: padded 4 year.natAbs
  else padded 4 year.natAbs

/-- A point in time to the second, in UTC. -/
def text (t : Timestamp) : String :=
  let (year, month, day) := dateOfDays t.day
  let second := t.second % 60 + t.nano / 1000000000
  String.ofList (yearText year ++ '-' :: padded 2 month ++ '-' :: padded 2 day ++
    'T' :: padded 2 (t.second / 3600) ++ ':' :: padded 2 (t.second / 60 % 60) ++
    ':' :: padded 2 second ++ ['Z'])

/-- The start of 1970. -/
def epoch : Timestamp := ⟨0, 0, 0⟩

end Timestamp

end VirtualApi

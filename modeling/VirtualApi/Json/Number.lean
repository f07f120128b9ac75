import VirtualApi.Json.Basic

/-!
# Reading JSON numbers

`NumberText.take?` takes a number as it is written from the front of a text, and `NumberText.value?`
says what it stands for. A number with a fraction or an exponent is scaled from its leading digits
by a power of ten, each step rounded to a double; beyond the finite doubles it stands for nothing.
-/

namespace VirtualApi

open Decimal Text

/-- A number as it is written: its sign, the digits before the point, those after it, and the
exponent. -/
structure NumberText where
  negative : Bool
  whole : List Char
  places : Option (List Char) := none
  exponent : Option Int := none
deriving DecidableEq, Repr

namespace NumberText

/-! ## What is written -/

/-- Take the digits in front of a text. -/
def takeDigits (text : List Char) : List Char × List Char := text.span isDigit

/-- The magnitude of an exponent; those from `2 ^ 31` on are all alike. -/
def exponentMagnitude (digits : List Char) : Nat :=
  digits.foldl (fun n c => min (n * 10 + digitValue c) (2 ^ 31)) 0

/-- Take the exponent after its mark: an optional sign and at least one digit. -/
def takeExponent? (text : List Char) : Option (Int × List Char) :=
  let (negative, rest) := match text with
    | '-' :: rest => (true, rest)
    | '+' :: rest => (false, rest)
    | rest => (false, rest)
  let (digits, rest) := takeDigits rest
  if digits = [] then none
  else
    let n : Int := exponentMagnitude digits
    some (if negative then -n else n, rest)

/-- Take the exponent of a number, if there is one. -/
def takeScale? (number : NumberText) (text : List Char) : Option (NumberText × List Char) :=
  match text with
  | c :: rest =>
      if c = 'e' || c = 'E' then
        (takeExponent? rest).map fun (n, rest) => ({ number with exponent := some n }, rest)
      else some (number, c :: rest)
  | [] => some (number, [])

/-- Take a number after its sign. A point has to have digits on both sides, and only a zero that
stands alone before the point may lead. -/
def takeUnsigned? (negative : Bool) (text : List Char) : Option (NumberText × List Char) :=
  let (whole, rest) := takeDigits text
  if whole = [] ∨ (whole.head? = some '0' ∧ whole ≠ ['0']) then none
  else
    match rest with
    | '.' :: rest =>
        let (places, rest) := takeDigits rest
        if places = [] then none
        else takeScale? { negative := negative, whole := whole, places := some places } rest
    | rest => takeScale? { negative := negative, whole := whole } rest

/-- Take a number. -/
def take? : List Char → Option (NumberText × List Char)
  | '-' :: rest => takeUnsigned? true rest
  | text => takeUnsigned? false text

/-! ## What it stands for -/

/-- Take digits into a significand while it stays below `2 ^ 64`; the count of digits taken and the
digits left over come with it. -/
def takeSignificand (significand taken : Nat) : List Char → Nat × Nat × List Char
  | [] => (significand, taken, [])
  | c :: rest =>
      let next := significand * 10 + digitValue c
      if next < 2 ^ 64 then takeSignificand next (taken + 1) rest
      else (significand, taken, c :: rest)

/-- The double nearest to a power of ten. -/
def powerOfTen? (exponent : Nat) : Option Double := Double.ofNat? (10 ^ exponent)

/-- Scale a magnitude by a power of ten: a product or quotient with a power up to `10 ^ 308`, after
as many quotients by `10 ^ 308` as it takes. Beyond the finite range there is no result. -/
def scaleByTen : Nat → Double → Int → Option Double
  | 0, magnitude, _ => some magnitude
  | fuel + 1, magnitude, exponent =>
      if exponent.natAbs ≤ 308 then do
        let power ← powerOfTen? exponent.natAbs
        if 0 ≤ exponent then magnitude.mul? power else magnitude.div? power
      else if magnitude.mantissa = 0 then some magnitude
      else if 0 ≤ exponent then none
      else do
        let power ← powerOfTen? 308
        let reduced ← magnitude.div? power
        scaleByTen fuel reduced (exponent + 308)

/-- A number from its significand and decimal exponent. -/
def scaled? (negative : Bool) (significand : Nat) (exponent : Int) : Option Number := do
  let magnitude ← Double.ofNat? significand
  let scaled ← scaleByTen 5 magnitude exponent
  some (.double (scaled.withSign negative))

/-- A number without fraction and exponent: an integer of the 64-bit ranges, else a double. Minus
zero is a double. -/
def whole? (negative : Bool) (digits : List Char) : Option Number :=
  let (significand, _, left) := takeSignificand 0 0 digits
  if left ≠ [] then scaled? negative significand left.length
  else if !negative then some (.int significand)
  else if 0 < significand ∧ significand ≤ 2 ^ 63 then some (.int (-(significand : Int)))
  else (Double.ofNat? significand).map fun d => .double (d.withSign true)

/-- A significand with the exponent that is written. One beyond the signed 32-bit range makes the
number zero or leaves it without a value. -/
def shifted? (negative : Bool) (significand : Nat) (exponent shift : Int) : Option Number :=
  if 2 ^ 31 ≤ shift.natAbs then
    if 0 < shift ∧ significand ≠ 0 then none else some (.double (Double.ofParts negative 0))
  else scaled? negative significand (exponent + shift)

/-- The number that is written. -/
def value? (number : NumberText) : Option Number :=
  match number.places, number.exponent with
  | none, none => whole? number.negative number.whole
  | places, exponent =>
      let (significand, _, left) := takeSignificand 0 0 number.whole
      let (significand, taken, _) := takeSignificand significand 0 (places.getD [])
      shifted? number.negative significand ((left.length : Int) - taken) (exponent.getD 0)

end NumberText

end VirtualApi

import VirtualApi.Decimal.Natural
import VirtualApi.Quantity.Basic
import VirtualApi.Text.Blank

/-!
# Reading quantities

`Quantity.parse` reads an optional sign, digits with at most one point, and a suffix, with white
space around them. Digits below one thousandth are rounded up in magnitude. A text of the wrong form
is a `format` failure; one whose amount, or whose intermediate magnitude, leaves the range is an
`overflow`.
-/

namespace VirtualApi.Quantity

open Text Decimal

/-- What a suffix says: the family, a power of two and a power of ten. -/
structure Scale where
  format : Format
  shift : Nat
  exponent : Int
deriving DecidableEq, Repr

/-- A character of the numeric part: a digit, a point or a sign. -/
def isNumeric (c : Char) : Bool := isDigit c || c = '.' || c = '+' || c = '-'

/-- The scale of a suffix. An exponent is written as `e` or `E` and a 32-bit integer. -/
def scaleOf? (suffix : List Char) : Option Scale :=
  if suffix = [] then some ⟨.decimalSI, 0, 0⟩
  else match binarySuffixes.lookup suffix with
    | some shift => some ⟨.binarySI, shift, 0⟩
    | none => match decimalSuffixes.lookup suffix with
      | some exponent => some ⟨.decimalSI, 0, exponent⟩
      | none => match suffix with
        | c :: rest =>
            if c = 'e' ∨ c = 'E' then
              (readSigned? 32 rest).map fun exponent => ⟨.decimalExponent, 0, exponent⟩
            else none
        | [] => none

/-- The magnitude, when it is at most the greatest amount. -/
def magnitude? (n : Nat) : Option Nat := if (n : Int) ≤ maxAmount then some n else none

/-- A power of ten, when it is at most the greatest amount. -/
def powerOfTen? (exponent : Nat) : Option Nat :=
  if exponent ≤ 38 then some (10 ^ exponent) else none

/-- The number a run of digits stands for, when it is at most the greatest amount. -/
def mantissa? (digits : List Char) : Option Nat :=
  digits.foldlM (fun n c => magnitude? (n * 10 + digitValue c)) 0

/-- A signed 32-bit integer, when it is in range. -/
def int32? (n : Int) : Option Int := if -(2 ^ 31) ≤ n ∧ n < 2 ^ 31 then some n else none

/-- The power of ten, in thousandths, of digits of which so many are decimal places. The sums are
made in 32 bits. -/
def power? (exponent : Int) (places : Nat) : Option Int := do
  let sum ← int32? (exponent + 3)
  let places ← int32? places
  int32? (sum - places)

/-- The magnitude of `mantissa * 2 ^ shift * 10 ^ exponent`, rounded up to an integer. -/
def scaled? (mantissa shift : Nat) (exponent : Int) : Option Nat := do
  let shifted ← magnitude? (mantissa * 2 ^ shift)
  if 0 ≤ exponent then
    let power ← powerOfTen? exponent.toNat
    magnitude? (shifted * power)
  else
    match powerOfTen? exponent.natAbs with
    | some power => some (shifted / power + if shifted % power = 0 then 0 else 1)
    | none => some (if shifted = 0 then 0 else 1)

/-- The sign and the rest of the numeric part. -/
def splitSign : List Char → Bool × List Char
  | '-' :: rest => (true, rest)
  | '+' :: rest => (false, rest)
  | rest => (false, rest)

/-- Read a text as a quantity. -/
def parse (text : String) : Except Failure Quantity :=
  let format : Failure := .format text
  let overflow : Failure := .overflow text
  let (numeric, suffix) := (trim text.toList).span isNumeric
  let (negative, unsigned) := splitSign numeric
  let (whole, places) := (splitOnce '.' unsigned).getD (unsigned, [])
  if (whole = [] ∧ places = []) ∨ !whole.all isDigit ∨ !places.all isDigit then .error format
  else match mantissa? (whole ++ places) with
    | none => .error overflow
    | some mantissa => match scaleOf? suffix with
      | none => .error format
      | some scale => match power? scale.exponent places.length with
        | none => .error overflow
        | some exponent => match scaled? mantissa scale.shift exponent with
          | none => .error overflow
          | some magnitude =>
              .ok ⟨if negative then -(magnitude : Int) else magnitude, scale.format⟩

end VirtualApi.Quantity

import VirtualApi.Decimal.Natural
import VirtualApi.Quantity.Basic

/-!
# Writing quantities

`Quantity.text` writes an amount exactly: in thousandths when it has a fraction, else in units with
the largest suffix of its family that leaves a whole number.
-/

namespace VirtualApi.Quantity

open Decimal

/-- A number of units with the first of these binary suffixes that divides it. -/
def binaryChars (units : Int) : List (List Char × Nat) → List Char
  | [] => signedDigits units
  | (suffix, shift) :: rest =>
      if units % 2 ^ shift = 0 then signedDigits (units / 2 ^ shift) ++ suffix
      else binaryChars units rest

/-- Divide by a thousand while the number stays whole, so many times at most; the power of ten
taken out comes with what is left. -/
def reduceThousands : Nat → Int → Nat → Int × Nat
  | 0, n, exponent => (n, exponent)
  | fuel + 1, n, exponent =>
      if n % 1000 = 0 then reduceThousands fuel (n / 1000) (exponent + 3) else (n, exponent)

/-- The decimal suffix of a power of ten. -/
def decimalSuffix (exponent : Nat) : List Char :=
  match decimalSuffixes.find? fun (_, e) => e = exponent with
  | some (suffix, _) => suffix
  | none => []

/-- A quantity in its own family. -/
def chars (q : Quantity) : List Char :=
  if q.millis = 0 then ['0']
  else if q.millis % 1000 ≠ 0 then signedDigits q.millis ++ ['m']
  else
    let units := q.millis / 1000
    match q.format with
    | .binarySI => binaryChars units binarySuffixes.reverse
    | .decimalSI =>
        let (n, exponent) := reduceThousands 6 units 0
        if exponent = 0 then signedDigits n else signedDigits n ++ decimalSuffix exponent
    | .decimalExponent =>
        let (n, exponent) := reduceThousands 6 units 0
        if exponent = 0 then signedDigits n else signedDigits n ++ 'e' :: digits exponent

/-- A quantity as text. -/
def text (q : Quantity) : String := String.ofList q.chars

end VirtualApi.Quantity

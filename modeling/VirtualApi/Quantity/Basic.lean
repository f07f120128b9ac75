import VirtualApi.Decimal.Natural
import VirtualApi.Text.Quoted

/-!
# Resource quantities

A quantity is an amount in thousandths together with the suffix family it was written in. Amounts
are limited to the signed 128-bit range: every operation that could leave it returns `none` instead.
Two quantities are compared by their amounts alone.
-/

namespace VirtualApi

/-- The greatest amount. -/
def maxAmount : Int := 2 ^ 127 - 1

/-- The least amount. -/
def minAmount : Int := -(2 ^ 127)

/-- The amount, when it is in range. -/
def amount? (n : Int) : Option Int := if minAmount ≤ n ∧ n ≤ maxAmount then some n else none

/-- The families of suffixes. -/
inductive Quantity.Format where
  | decimalSI
  | binarySI
  | decimalExponent
deriving DecidableEq, Repr, Inhabited

/-- An amount in thousandths, and the suffix family it is written in. -/
structure Quantity where
  millis : Int
  format : Quantity.Format
deriving DecidableEq, Repr, Inhabited

namespace Quantity

/-- The amount is in range. -/
def InRange (q : Quantity) : Prop := minAmount ≤ q.millis ∧ q.millis ≤ maxAmount

/-- The name of a suffix family. -/
def Format.name : Format → String
  | .decimalSI => "DecimalSI"
  | .binarySI => "BinarySI"
  | .decimalExponent => "DecimalExponent"

/-- The suffix family of a name. -/
def Format.ofName? (text : String) : Option Format :=
  [Format.decimalSI, .binarySI, .decimalExponent].find? fun format => format.name = text

/-- Why a text or a result is not a quantity. -/
inductive Failure where
  /-- The text is not written like a quantity. -/
  | format (text : String)
  /-- The amount of this text, or of this named resource, leaves the range. -/
  | overflow (subject : String)
deriving DecidableEq, Repr

/-- The wording of each failure. -/
def Failure.message : Failure → String
  | .format text =>
      "quantities must match the regular expression "
        ++ "'^([+-]?[0-9.]+)([eEinumkKMGTP]*[-+]?[0-9]*)$': " ++ Text.quoted text
  | .overflow subject => "quantity " ++ Text.quoted subject ++ " is out of range"

/-- The name of each cause. -/
def Failure.name : Failure → String
  | .format _ => "Format"
  | .overflow _ => "Overflow"

/-- A whole number of units. -/
def ofUnits (units : Int) : Quantity := ⟨units * 1000, .decimalSI⟩

/-- The amount is zero. -/
def isZero (q : Quantity) : Bool := q.millis = 0

/-- The sum, in the family of the first operand. -/
def add? (a b : Quantity) : Option Quantity :=
  (amount? (a.millis + b.millis)).map fun millis => ⟨millis, a.format⟩

/-- The multiple by an integer, in the same family. -/
def scale? (q : Quantity) (factor : Int) : Option Quantity :=
  (amount? (q.millis * factor)).map fun millis => ⟨millis, q.format⟩

/-- The quantity with the larger amount; of equal ones the first. -/
def max (a b : Quantity) : Quantity := if a.millis < b.millis then b else a

/-- The binary suffixes with the powers of two they stand for, from the smallest. -/
def binarySuffixes : List (List Char × Nat) :=
  [(['K', 'i'], 10), (['M', 'i'], 20), (['G', 'i'], 30), (['T', 'i'], 40), (['P', 'i'], 50),
    (['E', 'i'], 60)]

/-- The decimal suffixes with the powers of ten they stand for. -/
def decimalSuffixes : List (List Char × Int) :=
  [(['n'], -9), (['u'], -6), (['m'], -3), (['k'], 3), (['M'], 6), (['G'], 9), (['T'], 12),
    (['P'], 15), (['E'], 18)]

end Quantity

end VirtualApi

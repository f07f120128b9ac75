import VirtualApi.Decimal.Natural

/-!
# Doubles as exact numbers

A finite double is a sign and `mantissa * 2 ^ exponent`; `Double.ofRatio` is the double nearest to a
ratio of natural numbers, ties going to the even mantissa. Products and quotients are rounded from
their exact values, so no machine arithmetic is used.
-/

namespace VirtualApi.Decimal

/-- A finite number in binary64 format, held as its 64 bits. -/
structure Double where
  bits : UInt64
deriving DecidableEq, Repr, Inhabited

namespace Double

/-- The bits below the sign. -/
def magnitudeBits (d : Double) : Nat := d.bits.toNat % 2 ^ 63

/-- The sign bit is set. -/
def negative (d : Double) : Bool := 2 ^ 63 ≤ d.bits.toNat

/-- The biased exponent field. -/
def exponentField (d : Double) : Nat := d.magnitudeBits / 2 ^ 52

/-- The fraction field. -/
def fractionField (d : Double) : Nat := d.magnitudeBits % 2 ^ 52

/-- The integer mantissa: the magnitude is `mantissa * 2 ^ exponent`. -/
def mantissa (d : Double) : Nat :=
  if d.exponentField = 0 then d.fractionField else d.fractionField + 2 ^ 52

/-- The binary exponent that goes with `mantissa`. -/
def exponent (d : Double) : Int :=
  if d.exponentField = 0 then -1074 else (d.exponentField : Int) - 1075

/-- The double with these sign and magnitude bits. -/
def ofParts (negative : Bool) (magnitude : Nat) : Double :=
  ⟨UInt64.ofNat (if negative then magnitude + 2 ^ 63 else magnitude)⟩

/-- The magnitude bits of positive infinity, the first that are not finite. -/
def infinityBits : Nat := 2047 * 2 ^ 52

/-- The whole quotient nearest to a ratio; a tie goes to the even one. -/
def roundHalfEven (numerator denominator : Nat) : Nat :=
  let quotient := numerator / denominator
  let twice := 2 * (numerator % denominator)
  if twice < denominator then quotient
  else if denominator < twice then quotient + 1
  else if quotient % 2 = 0 then quotient else quotient + 1

/-- The ratio `numerator / (denominator * 2 ^ exponent)` as numerator and denominator. -/
def scaled (numerator denominator : Nat) (exponent : Int) : Nat × Nat :=
  if 0 ≤ exponent then (numerator, denominator * 2 ^ exponent.toNat)
  else (numerator * 2 ^ (-exponent).toNat, denominator)

/-- The exponent at which a positive ratio has a mantissa of 53 bits, or the least exponent there
is. The first guess, from the lengths of the two numbers, is at most one too small. -/
def exponentFor (numerator denominator : Nat) : Int :=
  let guess : Int := (numerator.log2 : Int) - denominator.log2 - 53
  let (n, d) := scaled numerator denominator guess
  let exact := if n / d < 2 ^ 53 then guess else guess + 1
  max exact (-1074)

/-- The magnitude bits of the double nearest to a ratio, or none beyond the finite range. -/
def magnitudeOfRatio? (numerator denominator : Nat) : Option Nat :=
  if numerator = 0 then some 0
  else
    let exponent := exponentFor numerator denominator
    let (n, d) := scaled numerator denominator exponent
    let magnitude := (exponent + 1074).toNat * 2 ^ 52 + roundHalfEven n d
    if magnitude < infinityBits then some magnitude else none

/-- The double nearest to a ratio, or none beyond the finite range. -/
def ofRatio? (negative : Bool) (numerator denominator : Nat) : Option Double :=
  (magnitudeOfRatio? numerator denominator).map (ofParts negative)

/-- The double nearest to `significand * 10 ^ exponent`, or none beyond the finite range. -/
def ofDecimal? (negative : Bool) (significand : Nat) (exponent : Int) : Option Double :=
  if significand = 0 then some (ofParts negative 0)
  else if 0 ≤ exponent then
    if 400 < exponent then none else ofRatio? negative (significand * 10 ^ exponent.toNat) 1
  else if exponent < -(400 + 4 * (significand.log2 : Int)) then some (ofParts negative 0)
  else ofRatio? negative significand (10 ^ (-exponent).toNat)

/-- How many digits of a number decide which double is nearest: no double and no middle between two
has as many. -/
def decisiveDigits : Nat := 800

/-- The double nearest to a run of digits times `10 ^ exponent`, or none beyond the finite range. Of
the digits after the decisive ones it only counts whether they are all zero. -/
def ofDigits? (negative : Bool) (digits : List Char) (exponent : Int) : Option Double :=
  let digits := digits.dropWhile (· = '0')
  let decisive := digits.take decisiveDigits
  let left := digits.drop decisiveDigits
  let power := exponent + left.length
  if left.all (· = '0') then ofDecimal? negative (value decisive) power
  else ofDecimal? negative (value decisive * 10 + 1) (power - 1)

/-- The magnitude as a ratio of natural numbers. -/
def ratio (d : Double) : Nat × Nat :=
  if 0 ≤ d.exponent then (d.mantissa * 2 ^ d.exponent.toNat, 1)
  else (d.mantissa, 2 ^ (-d.exponent).toNat)

/-- The double nearest to the product of two magnitudes. -/
def mul? (a b : Double) : Option Double :=
  let (n, m) := a.ratio
  let (p, q) := b.ratio
  ofRatio? false (n * p) (m * q)

/-- The double nearest to the quotient of two magnitudes, the second one positive. -/
def div? (a b : Double) : Option Double :=
  let (n, m) := a.ratio
  let (p, q) := b.ratio
  ofRatio? false (n * q) (m * p)

/-- The double nearest to a natural number. -/
def ofNat? (n : Nat) : Option Double := ofRatio? false n 1

/-- The same magnitude with the given sign. -/
def withSign (negative : Bool) (d : Double) : Double := ofParts negative d.magnitudeBits

end Double

end VirtualApi.Decimal

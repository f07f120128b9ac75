import VirtualApi.Decimal.Double
import VirtualApi.Decimal.Natural

/-!
# The fewest digits that read back

`shortest` finds, for a positive double, the decimal number with the fewest digits among those that
round to the double, and of several the one nearest to it. `Double.text` writes it: positionally
while the point stands at most sixteen places to the right or four zeros to the left of the first
digit, else with an exponent, and always with a fraction or an exponent.
-/

namespace VirtualApi.Decimal

/-- A decimal number `significand * 10 ^ exponent`. -/
structure Scientific where
  significand : Nat
  exponent : Int
deriving DecidableEq, Repr

namespace Double

/-- The largest exponent whose power of ten is at most the ratio, searched upwards from a guess
that is not too large. -/
def decimalExponentFrom (numerator denominator : Nat) : Nat → Int → Int
  | 0, guess => guess
  | fuel + 1, guess =>
      let next := guess + 1
      let (n, d) :=
        if 0 ≤ next then (numerator, denominator * 10 ^ next.toNat)
        else (numerator * 10 ^ (-next).toNat, denominator)
      if d ≤ n then decimalExponentFrom numerator denominator fuel next else guess

/-- The decimal exponent of the first digit of a positive ratio. -/
def decimalExponent (numerator denominator : Nat) : Int :=
  let binary : Int := (numerator.log2 : Int) - denominator.log2 - 1
  decimalExponentFrom numerator denominator 4 (Int.fdiv (binary * 30103) 100000 - 1)

/-- The interval of reals that round to a double, in units of a quarter of its last place: the
double is `4 * mantissa` units, and the ends belong to the interval when the mantissa is even. -/
structure Interval where
  low : Nat
  high : Nat
  closed : Bool

/-- The rounding interval of a positive double. Below a power of two the neighbour is half as
far. -/
def interval (d : Double) : Interval :=
  let below := if d.fractionField = 0 ∧ 1 < d.exponentField then 1 else 2
  { low := 4 * d.mantissa - below, high := 4 * d.mantissa + 2, closed := d.mantissa % 2 = 0 }

/-- The candidate `count * 10 ^ grid`, in the units of `interval`, as a ratio. -/
def unitsOf (d : Double) (count : Nat) (grid : Int) : Nat × Nat :=
  let unit := d.exponent - 2
  let (n, m) := if 0 ≤ grid then (count * 10 ^ grid.toNat, 1) else (count, 10 ^ (-grid).toNat)
  if 0 ≤ unit then (n, m * 2 ^ unit.toNat) else (n * 2 ^ (-unit).toNat, m)

/-- The candidate rounds to the double. -/
def admits (d : Double) (count : Nat) (grid : Int) : Bool :=
  let (n, m) := d.unitsOf count grid
  let range := d.interval
  if range.closed then range.low * m ≤ n && n ≤ range.high * m
  else range.low * m < n && n < range.high * m

/-- The first of the two neighbours of the double on a grid is strictly nearer to it, or they are
equally near and the first is even. -/
def nearerBelow (d : Double) (count : Nat) (grid : Int) : Bool :=
  let (n, m) := d.unitsOf count grid
  let (p, q) := d.unitsOf (count + 1) grid
  let here := 4 * d.mantissa
  let below := (here * m - n) * q
  let above := (p - here * q) * m
  if below = above then count % 2 = 0 else below < above

/-- Try the grids from coarse to fine: the first with a neighbour that rounds to the double wins. -/
def shortestFrom (d : Double) : Nat → Int → Scientific
  | 0, grid =>
      let (n, m) := d.ratio
      let count :=
        if 0 ≤ grid then n / (m * 10 ^ grid.toNat) else n * 10 ^ (-grid).toNat / m
      ⟨count, grid⟩
  | fuel + 1, grid =>
      let (n, m) := d.ratio
      let count :=
        if 0 ≤ grid then n / (m * 10 ^ grid.toNat) else n * 10 ^ (-grid).toNat / m
      match d.admits count grid, d.admits (count + 1) grid with
      | true, true => if d.nearerBelow count grid then ⟨count, grid⟩ else ⟨count + 1, grid⟩
      | true, false => ⟨count, grid⟩
      | false, true => ⟨count + 1, grid⟩
      | false, false => shortestFrom d fuel (grid - 1)

/-- Move the zeros at the end of the significand into the exponent. -/
def dropZeros : Nat → Scientific → Scientific
  | 0, s => s
  | fuel + 1, s =>
      if s.significand ≠ 0 ∧ s.significand % 10 = 0
      then dropZeros fuel ⟨s.significand / 10, s.exponent + 1⟩
      else s

/-- The decimal number with the fewest digits that rounds to a positive double. -/
def shortest (d : Double) : Scientific :=
  let (n, m) := d.ratio
  dropZeros 20 (shortestFrom d 17 (decimalExponent n m))

/-- A run of zeros. -/
def zeros (count : Nat) : List Char := List.replicate count '0'

/-- A positive decimal number in the notation described above. -/
def layout (s : Scientific) : List Char :=
  let ds := digits s.significand
  let point : Int := ds.length + s.exponent
  if 0 ≤ s.exponent ∧ point ≤ 16 then ds ++ zeros s.exponent.toNat ++ ['.', '0']
  else if 0 < point ∧ point ≤ 16 then ds.take point.toNat ++ '.' :: ds.drop point.toNat
  else if -5 < point ∧ point ≤ 0 then '0' :: '.' :: zeros (-point).toNat ++ ds
  else match ds with
    | [d] => d :: 'e' :: signedDigits (point - 1)
    | d :: rest => d :: '.' :: rest ++ 'e' :: signedDigits (point - 1)
    | [] => []

/-- A finite double in decimal notation. -/
def text (d : Double) : String :=
  let magnitude := if d.magnitudeBits = 0 then ['0', '.', '0'] else layout d.shortest
  String.ofList (if d.negative then '-' :: magnitude else magnitude)

end Double

end VirtualApi.Decimal

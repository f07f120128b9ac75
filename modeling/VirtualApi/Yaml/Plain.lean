import VirtualApi.Json.Basic

/-!
# What plain texts mean

A plain text may stand for null, a truth value or a number; every other one is a text. Whole numbers
are decimal, or have base 16, 8 or 2 behind `0x`, `0o` or `0b`. Decimal digits with a superfluous
leading zero are a text.
-/

namespace VirtualApi.Yaml.Plain

open Decimal Text

/-- A word for null. -/
def isNullWord (text : List Char) : Bool :=
  text = ['~'] || [['n', 'u', 'l', 'l'], ['N', 'u', 'l', 'l'], ['N', 'U', 'L', 'L']].contains text

/-- A plain text that stands for null: a word for it, or nothing. -/
def isNull (text : List Char) : Bool := text = [] || isNullWord text

/-- The truth value that a plain text stands for. -/
def bool? (text : List Char) : Option Bool :=
  if ["true".toList, "True".toList, "TRUE".toList].contains text then some true
  else if ["false".toList, "False".toList, "FALSE".toList].contains text then some false
  else none

/-- Digits with a leading zero in front of others. -/
def isPaddedNumber (text : List Char) : Bool :=
  let unsigned := match text with
    | '-' :: rest | '+' :: rest => rest
    | _ => text
  match unsigned with
  | '0' :: c :: rest => isDigit c && rest.all isDigit
  | _ => false

/-- The number a digit of a base stands for. -/
def digitOf? (base : Nat) (c : Char) : Option Nat :=
  let n :=
    if isDigit c then c.toNat - 48
    else if isLowerLetter c then c.toNat - 87
    else if isUpperLetter c then c.toNat - 55
    else base
  if n < base then some n else none

/-- The greatest magnitude of a whole number that is not read as a double. -/
def maxWhole : Nat := 2 ^ 128 - 1

/-- The number that digits of a base stand for; there has to be one. Beyond the greatest magnitude
numbers are all alike. -/
def magnitude? (base : Nat) (text : List Char) : Option Nat :=
  if text = [] then none
  else (text.mapM (digitOf? base)).map fun digits =>
    digits.foldl (fun n d => min (n * base + d) (maxWhole + 1)) 0

/-- The base that a text starts with, and the text after it. -/
def splitBase? : List Char → Option (Nat × List Char)
  | '0' :: 'x' :: rest => some (16, rest)
  | '0' :: 'o' :: rest => some (8, rest)
  | '0' :: 'b' :: rest => some (2, rest)
  | _ => none

/-- The magnitude of a whole number, with or without a base. -/
def whole? (text : List Char) : Option Nat :=
  match splitBase? text with
  | some (base, digits) => magnitude? base digits
  | none => if isPaddedNumber text then none else magnitude? 10 text

/-- The whole number that a plain text stands for. -/
def int? (text : List Char) : Option Int :=
  match text with
  | '-' :: rest => (whole? rest).map fun n => -(n : Int)
  | '+' :: rest => (whole? rest).map Int.ofNat
  | _ => (whole? text).map Int.ofNat

/-- The magnitude of an exponent. Its digits count while it is below `2 ^ 16`. -/
def exponentMagnitude? (digits : List Char) : Option Nat :=
  if digits ≠ [] ∧ digits.all isDigit then
    some (digits.foldl (fun n c => if n < 2 ^ 16 then n * 10 + digitValue c else n) 0)
  else none

/-- The exponent after the mark of one. -/
def exponent? : List Char → Option Int
  | '-' :: rest => (exponentMagnitude? rest).map fun n => -(n : Int)
  | '+' :: rest => (exponentMagnitude? rest).map Int.ofNat
  | rest => (exponentMagnitude? rest).map Int.ofNat

/-- The double that an unsigned number with a point, an exponent or both stands for. -/
def unsignedDouble? (negative : Bool) (text : List Char) : Option Double := do
  let (mantissa, marked) := text.span fun c => c ≠ 'e' && c ≠ 'E'
  let (whole, places) := (splitOnce '.' mantissa).getD (mantissa, [])
  let exponent ← if marked = [] then some 0 else exponent? marked.tail
  if whole ++ places = [] || !(whole ++ places).all isDigit then none
  Double.ofDigits? negative (whole ++ places) (exponent - places.length)

/-- The double that a decimal number stands for; one beyond the finite range has none. -/
def double? (text : List Char) : Option Double :=
  match text with
  | '-' :: rest => unsignedDouble? true rest
  | '+' :: rest => unsignedDouble? false rest
  | _ => unsignedDouble? false text

/-- A plain text that stands for an infinity or for no number. -/
def isUnbounded (text : List Char) : Bool :=
  [".inf", ".Inf", ".INF", "+.inf", "+.Inf", "+.INF", "-.inf", "-.Inf", "-.INF", ".nan", ".NaN",
    ".NAN"].contains (String.ofList text)

/-- The value of a whole number. One beyond the 64-bit ranges has none. -/
def wholeJson? (n : Int) : Option Json :=
  if -(2 ^ 63) ≤ n ∧ n < 2 ^ 64 then some (.int n) else none

/-- A whole number has so many bits that it is read as a double. -/
def isHuge (n : Int) : Bool := n < -(2 ^ 127) || maxWhole < n

/-- The value of a number that need not be whole; what is unbounded is null. -/
def realJson? (text : List Char) : Option Json :=
  if isUnbounded text then some .null else (double? text).map fun d => .num (.double d)

/-- The value that a plain text stands for. -/
def json? (text : List Char) : Option Json :=
  if isNull text then some .null
  else match bool? text, (int? text).filter (!isHuge ·) with
    | some b, _ => some (.bool b)
    | none, some n => wholeJson? n
    | none, none =>
        let real? := if isPaddedNumber text then none else realJson? text
        some (real?.getD (.str (String.ofList text)))

end VirtualApi.Yaml.Plain

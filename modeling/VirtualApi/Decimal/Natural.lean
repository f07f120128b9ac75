import VirtualApi.Text.Split

/-!
# Decimal notation of whole numbers

`digits` writes a natural number without leading zeros and `value` reads a run of digits back.
`readUnsigned` is the strict reader of a bounded unsigned number, with one error for each way a text
can fail; `readSigned?` reads a number of a signed machine width.
-/

namespace VirtualApi.Decimal

open VirtualApi.Text

/-- A power of natural numbers is the core library's, whatever other powers are in scope. -/
@[default_instance 20001]
instance (priority := 1100) natPower : Pow Nat Nat := instPowNat

/-- A power of an integer is the core library's, whatever other powers are in scope. -/
@[default_instance 20000]
instance (priority := 1100) intPower : Pow Int Nat := instPowNat

/-- The decimal digit of a number below ten. -/
def digit (n : Nat) : Char := Char.ofNat (48 + n % 10)

/-- The number a decimal digit stands for. -/
def digitValue (c : Char) : Nat := c.toNat - 48

/-- The last digits of a number, one for each unit of fuel until the number is used up. -/
def digitsFrom : Nat → Nat → List Char → List Char
  | 0, _, tail => tail
  | fuel + 1, n, tail =>
      if n < 10 then digit n :: tail else digitsFrom fuel (n / 10) (digit n :: tail)

/-- The decimal digits of a natural number, without leading zeros. -/
def digits (n : Nat) : List Char := digitsFrom (n + 1) n []

/-- The number a run of decimal digits stands for. -/
def value (text : List Char) : Nat :=
  text.foldl (fun n c => n * 10 + digitValue c) 0

/-- A natural number in decimal notation. -/
def ofNat (n : Nat) : String := String.ofList (digits n)

/-- The decimal digits of an integer, after a minus sign when it is negative. -/
def signedDigits (n : Int) : List Char :=
  if n < 0 then '-' :: digits n.natAbs else digits n.natAbs

/-- An integer in decimal notation. -/
def ofInt (n : Int) : String := String.ofList (signedDigits n)

/-- Why a text is not a bounded unsigned number. -/
inductive ReadError where
  | empty
  | invalidDigit
  | tooLarge
deriving DecidableEq, Repr

/-- The wording of each error. -/
def ReadError.message : ReadError → String
  | .empty => "cannot parse integer from empty string"
  | .invalidDigit => "invalid digit found in string"
  | .tooLarge => "number too large to fit in target type"

/-- Read digits from the left; the first character that is no digit, or the first digit that
takes the number beyond the bound, decides the error. -/
def readFrom (bound : Nat) : Nat → List Char → Except ReadError Nat
  | n, [] => .ok n
  | n, c :: rest =>
      if isDigit c then
        if n * 10 + digitValue c ≤ bound then readFrom bound (n * 10 + digitValue c) rest
        else .error .tooLarge
      else .error .invalidDigit

/-- Read a whole text as an unsigned number up to the bound. One plus sign may stand in front,
leading zeros are allowed, and at least one digit is required. -/
def readUnsigned (bound : Nat) : List Char → Except ReadError Nat
  | [] => .error .empty
  | ['+'] => .error .invalidDigit
  | '+' :: rest => readFrom bound 0 rest
  | text => readFrom bound 0 text

/-- Read a whole text as digits that stand for a number up to the bound; at least one is
required. -/
def readDigits? (bound : Nat) (text : List Char) : Option Nat :=
  if text = [] then none else (readFrom bound 0 text).toOption

/-- Read a whole text as a signed number of the given width in bits: one sign may stand in front,
and at least one digit is required. -/
def readSigned? (width : Nat) (text : List Char) : Option Int :=
  let half := 2 ^ (width - 1)
  match text with
  | '-' :: rest => (readDigits? half rest).map fun (n : Nat) => -(n : Int)
  | '+' :: rest => (readDigits? (half - 1) rest).map Int.ofNat
  | rest => (readDigits? (half - 1) rest).map Int.ofNat

/-- The number a run of decimal digits stands for; anything else, and the empty text, has none. -/
def readNat? (text : List Char) : Option Nat :=
  if text ≠ [] ∧ text.all isDigit then some (value text) else none

end VirtualApi.Decimal

import VirtualApi.Json.Number

/-!
# Cutting JSON text into tokens

`JsonToken.ofText?` cuts a whole text. A number may stand for nothing, and a text may have escapes
that stand for no character: half of a surrogate pair without the other. Such tokens carry no value;
whether one is needed is not known yet. A control character inside a text has to be escaped.
-/

namespace VirtualApi

open Text

/-- A token of a JSON text. -/
inductive JsonToken where
  | openArray
  | closeArray
  | openObject
  | closeObject
  | comma
  | colon
  | null
  | bool (value : Bool)
  | num (value : Option Number)
  | str (value : Option String)
deriving DecidableEq, Repr, Inhabited

namespace JsonToken

/-- A character that may stand between tokens. -/
def isGap (c : Char) : Bool := c = ' ' || c = '\n' || c = '\t' || c = '\r'

/-- The text from its first character that is no gap. -/
def skipGap (text : List Char) : List Char := text.dropWhile isGap

/-! ## Texts -/

/-- Take so many hexadecimal digits. -/
def takeHex? : Nat → Nat → List Char → Option (Nat × List Char)
  | 0, n, rest => some (n, rest)
  | count + 1, n, c :: rest => do
      let d ← hexValue? c
      takeHex? count (n * 16 + d) rest
  | _ + 1, _, [] => none

/-- The number is the first half of a surrogate pair. -/
def isHighSurrogate (n : Nat) : Bool := 0xD800 ≤ n && n ≤ 0xDBFF

/-- The number is the second half of a surrogate pair. -/
def isLowSurrogate (n : Nat) : Bool := 0xDC00 ≤ n && n ≤ 0xDFFF

/-- Take the four digits after `\u`, and the second escape when both are a surrogate pair. Half of
a pair stands for no character. -/
def takeUnicode? (text : List Char) : Option (Option Char × List Char) := do
  let (high, rest) ← takeHex? 4 0 text
  if isHighSurrogate high then
    match rest with
    | '\\' :: 'u' :: next =>
        let (low, after) ← takeHex? 4 0 next
        if isLowSurrogate low then
          some (some (Char.ofNat (0x10000 + (high - 0xD800) * 0x400 + (low - 0xDC00))), after)
        else some (none, rest)
    | _ => some (none, rest)
  else if isLowSurrogate high then some (none, rest)
  else some (some (Char.ofNat high), rest)

/-- Take what follows a backslash. -/
def takeEscape? : List Char → Option (Option Char × List Char)
  | '"' :: rest => some (some '"', rest)
  | '\\' :: rest => some (some '\\', rest)
  | '/' :: rest => some (some '/', rest)
  | 'b' :: rest => some (some '\x08', rest)
  | 'f' :: rest => some (some '\x0c', rest)
  | 'n' :: rest => some (some '\n', rest)
  | 'r' :: rest => some (some '\r', rest)
  | 't' :: rest => some (some '\t', rest)
  | 'u' :: rest => takeUnicode? rest
  | _ => none

/-- Take a text after its opening quote; `read` is what was read of it, in reverse, as long as every
escape stands for a character. -/
def takeText? : Nat → Option (List Char) → List Char → Option (Option String × List Char)
  | 0, _, _ => none
  | fuel + 1, read, text =>
      match text with
      | '"' :: rest => some (read.map fun cs => String.ofList cs.reverse, rest)
      | '\\' :: rest =>
          match takeEscape? rest with
          | some (some c, rest) => takeText? fuel (read.map (c :: ·)) rest
          | some (none, rest) => takeText? fuel none rest
          | none => none
      | c :: rest => if c.toNat < 32 then none else takeText? fuel (read.map (c :: ·)) rest
      | [] => none

/-! ## Tokens -/

/-- Take the token that starts here. -/
def take? (fuel : Nat) : List Char → Option (JsonToken × List Char)
  | '[' :: rest => some (openArray, rest)
  | ']' :: rest => some (closeArray, rest)
  | '\x7b' :: rest => some (openObject, rest)
  | '\x7d' :: rest => some (closeObject, rest)
  | ',' :: rest => some (comma, rest)
  | ':' :: rest => some (colon, rest)
  | '"' :: rest => (takeText? fuel (some []) rest).map fun (s, rest) => (str s, rest)
  | 't' :: 'r' :: 'u' :: 'e' :: rest => some (bool true, rest)
  | 'f' :: 'a' :: 'l' :: 's' :: 'e' :: rest => some (bool false, rest)
  | 'n' :: 'u' :: 'l' :: 'l' :: rest => some (null, rest)
  | rest => (NumberText.take? rest).map fun (n, rest) => (num n.value?, rest)

/-- Take all tokens; `read` holds those before, in reverse. -/
def takeAll? : Nat → List JsonToken → List Char → Option (List JsonToken)
  | 0, _, _ => none
  | fuel + 1, read, text =>
      match skipGap text with
      | [] => some read.reverse
      | c :: rest =>
          match take? (fuel + 1) (c :: rest) with
          | some (token, rest) => takeAll? fuel (token :: read) rest
          | none => none

/-- The tokens of a text. -/
def ofText? (text : List Char) : Option (List JsonToken) := takeAll? (text.length + 1) [] text

end JsonToken

end VirtualApi

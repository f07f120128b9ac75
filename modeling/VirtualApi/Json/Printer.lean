import VirtualApi.Decimal.Shortest
import VirtualApi.Json.Basic

/-!
# Compact JSON text

`Json.compact` writes a value without white space, the fields of an object in the order they are
kept in. Only quotes, backslashes and control characters are escaped.
-/

namespace VirtualApi

open Decimal

/-- A number in JSON notation. -/
def Number.text : Number → String
  | .int n => ofInt n
  | .double d => d.text

namespace Json

/-- A hexadecimal digit in lower case. -/
def hexDigit (n : Nat) : Char :=
  if n < 10 then Char.ofNat (48 + n) else Char.ofNat (87 + n)

/-- One character inside a quoted text. -/
def escapeChar (c : Char) : List Char :=
  if c = '"' then ['\\', '"']
  else if c = '\\' then ['\\', '\\']
  else if c = '\n' then ['\\', 'n']
  else if c = '\r' then ['\\', 'r']
  else if c = '\t' then ['\\', 't']
  else if c.toNat = 8 then ['\\', 'b']
  else if c.toNat = 12 then ['\\', 'f']
  else if c.toNat < 32 then
    ['\\', 'u', '0', '0', hexDigit (c.toNat / 16), hexDigit (c.toNat % 16)]
  else [c]

/-- A text in quotes, added to what is already written. -/
def quoteTo (written : String) (text : String) : String :=
  (text.foldl (fun w c => (escapeChar c).foldl String.push w) (written.push '"')).push '"'

mutual

/-- A value, added to what is already written. -/
def compactTo (written : String) : Json → String
  | .null => written ++ "null"
  | .bool b => written ++ (if b then "true" else "false")
  | .num n => written ++ n.text
  | .str s => quoteTo written s
  | .arr [] => written ++ "[]"
  | .arr (v :: items) => (compactItemsTo (compactTo (written.push '[') v) items).push ']'
  | .obj [] => written ++ "\x7b\x7d"
  | .obj ((k, v) :: fields) =>
      (compactFieldsTo (compactTo ((quoteTo (written.push '\x7b') k).push ':') v) fields).push
        '\x7d'

/-- The items after the first, each after a comma. -/
def compactItemsTo (written : String) : List Json → String
  | [] => written
  | v :: items => compactItemsTo (compactTo (written.push ',') v) items

/-- The fields after the first, each after a comma. -/
def compactFieldsTo (written : String) : List (String × Json) → String
  | [] => written
  | (k, v) :: fields =>
      compactFieldsTo (compactTo ((quoteTo (written.push ',') k).push ':') v) fields

end

/-- A value as compact JSON text. -/
def compact (value : Json) : String := compactTo "" value

end Json

end VirtualApi

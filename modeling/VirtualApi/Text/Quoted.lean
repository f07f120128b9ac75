import VirtualApi.Text.Hidden

/-!
# Quoted text

`quoted` writes a text between double quotes so that every character can be seen: quotes and
backslashes behind a backslash, line ends, tabs and NUL by letters, and every hidden character by
its code point.
-/

namespace VirtualApi.Text

/-- The hexadecimal digits of a number, in lower case and without leading zeros. -/
def hexDigits (n : Nat) : List Char := (Nat.toDigits 16 n).map Char.toLower

/-- One character inside the quotes. -/
def quotedChar (c : Char) : List Char :=
  if c = '"' then ['\\', '"']
  else if c = '\\' then ['\\', '\\']
  else if c = '\n' then ['\\', 'n']
  else if c = '\r' then ['\\', 'r']
  else if c = '\t' then ['\\', 't']
  else if c.toNat = 0 then ['\\', '0']
  else if isHidden c then '\\' :: 'u' :: '\x7b' :: hexDigits c.toNat ++ ['\x7d']
  else [c]

/-- A text between double quotes. -/
def quoted (text : String) : String :=
  String.ofList ('"' :: text.toList.flatMap quotedChar ++ ['"'])

end VirtualApi.Text

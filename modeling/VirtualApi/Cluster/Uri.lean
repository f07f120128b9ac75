import VirtualApi.Label.Basic

/-!
# URIs of a host cluster

A URI is a path and a query. `Uri.ofText` checks that every character may stand where it stands and
drops a fragment; `Uri.queryEncoded` writes any text so that it may stand in a query.
-/

namespace VirtualApi

/-- Why a text is no URI. -/
inductive UriError where
  | tooLong
  | invalidCharacter
deriving DecidableEq, Repr

/-- The wording of each error. -/
def UriError.message : UriError → String
  | .tooLong => "uri too long"
  | .invalidCharacter => "invalid uri character"

namespace Uri

/-- A character that may stand in a path as it is. -/
def isPathChar (c : Char) : Bool :=
  let n := c.toNat
  n = 0x21 || n = 0x22 || (0x24 ≤ n && n ≤ 0x3B) || n = 0x3D || (0x40 ≤ n && n ≤ 0x5F) || 0x61 ≤ n

/-- A character that may stand in a query as it is. -/
def isQueryChar (c : Char) : Bool :=
  let n := c.toNat
  n = 0x21 || (0x24 ≤ n && n ≤ 0x3B) || n = 0x3D || 0x3F ≤ n

/-- The query of a URI without its fragment. -/
def query? : List Char → Option (List Char)
  | [] => some []
  | '#' :: _ => some []
  | c :: rest => if isQueryChar c then (query? rest).map (c :: ·) else none

/-- The path and query of a URI without its fragment. -/
def chars? : List Char → Option (List Char)
  | [] => some []
  | '#' :: _ => some []
  | '?' :: rest => (query? rest).map ('?' :: ·)
  | c :: rest => if isPathChar c then (chars? rest).map (c :: ·) else none

/-- The greatest number of bytes of a URI. -/
def maxBytes : Nat := 65534

/-- A text as a URI, if it is one. -/
def ofText (text : String) : Except UriError String :=
  if maxBytes < text.utf8ByteSize then .error .tooLong
  else match chars? text.toList with
    | some uri => .ok (String.ofList uri)
    | none => .error .invalidCharacter

/-- A hexadecimal digit in upper case. -/
def hexDigit (n : Nat) : Char := if n < 10 then Char.ofNat (48 + n) else Char.ofNat (55 + n)

/-- The bytes of a character, each behind a percent sign. -/
def percentEncoded (c : Char) : List Char :=
  (String.singleton c).toUTF8.toList.flatMap fun byte =>
    ['%', hexDigit (byte.toNat / 16), hexDigit (byte.toNat % 16)]

/-- A character that needs no encoding in a query. -/
def isPlainChar (c : Char) : Bool :=
  Text.isAlphanumeric c || c = '*' || c = '-' || c = '.' || c = '_'

/-- A text as part of a query: a space is a plus sign, and what is not plain is percent-encoded. -/
def queryEncoded (text : String) : String :=
  String.ofList (text.toList.flatMap fun c =>
    if isPlainChar c then [c] else if c = ' ' then ['+'] else percentEncoded c)

/-- The query of a list: its selector, unless that selects everything. -/
def listQuery (selector : Selector) : String :=
  if selector.isEmpty then "?" else "?&labelSelector=" ++ queryEncoded selector.text

end Uri

end VirtualApi

import VirtualApi.Decimal.Natural
import VirtualApi.Yaml.Scalar
import VirtualApi.Yaml.Token

/-!
# Tags and directives of YAML

A tag says what a node is meant to be. It is written in full between `!<` and `>`, or as a handle
and the rest, and the directives of a document say what handles stand for. `Tag.token?` reads a tag
and `Directive.token?` a directive up to the end of its line; either gives the token and the place
after it.
-/

namespace VirtualApi.Yaml

open Text

/-- A character of the name of an anchor, a handle or a directive. -/
def isNameChar (c : Char) : Bool := isAlphanumeric c || c = '-' || c = '_'

/-- A character of a tag. -/
def isTagChar (c : Char) : Bool := isNameChar c || ";/?:@&=+$.!~*'()%".toList.contains c

/-- A character of a tag that is written in full, and of what a handle stands for. -/
def isFullTagChar (c : Char) : Bool := isTagChar c || c = ',' || c = '[' || c = ']'

namespace Tag

/-! ## What tags say -/

/-- The tag of null. -/
def null : String := "tag:yaml.org,2002:null"

/-- The tag of truth values. -/
def bool : String := "tag:yaml.org,2002:bool"

/-- The tag of whole numbers. -/
def int : String := "tag:yaml.org,2002:int"

/-- The tag of numbers. -/
def float : String := "tag:yaml.org,2002:float"

/-- The name that a tag gives, when it is one of the document's own. -/
def localName? (tag : Option String) : Option String :=
  match tag.map String.toList with
  | some ('!' :: name) => some (String.ofList name)
  | _ => none

/-! ## Reading -/

/-- Undo the escapes of a tag: each is a percent sign and two hexadecimal digits for a byte. -/
def bytes? : List Char → Option (List UInt8)
  | [] => some []
  | '%' :: high :: low :: rest => do
      let h ← hexValue? high
      let l ← hexValue? low
      some (UInt8.ofNat (h * 16 + l) :: (← bytes? rest))
  | c :: rest => if c = '%' then none else (bytes? rest).map (UInt8.ofNat c.toNat :: ·)

/-- The text that the characters of a tag stand for. -/
def unescape? (written : List Char) : Option String := do
  String.fromUTF8? (ByteArray.mk (← bytes? written).toArray)

/-- Read the handle that starts here: names between exclamation marks; the second mark may be
missing. -/
def handle (c : Cursor) : List Char × Cursor :=
  let name := c.rest.tail.takeWhile isNameChar
  let after := c.skip.skipMany name.length
  if after.peek? = some '!' then ('!' :: name ++ ['!'], after.skip) else ('!' :: name, after)

/-- A handle has both of its marks. -/
def isClosed (handle : List Char) : Bool := 1 < handle.length && handle.getLast? = some '!'

/-- Read the token of a tag, from its exclamation mark on. -/
def token? (c : Cursor) : Option (Token × Cursor) :=
  if c.peekNext? = some '<' then do
    let start := c.skipMany 2
    let written := start.rest.takeWhile isFullTagChar
    let after := start.skipMany written.length
    if written = [] ∨ after.peek? ≠ some '>' then none
    some (.tag "" (← unescape? written), after.skip)
  else do
    let (name, after) := handle c
    let written := after.rest.takeWhile isTagChar
    let next := after.skipMany written.length
    let rest ← unescape? written
    if isClosed name then
      if written = [] then none
      some (.tag (String.ofList name) rest, next)
    else
      let whole := String.ofList name.tail ++ rest
      some (if whole = "" then .tag "" "!" else .tag "!" whole, next)

end Tag

namespace Directive

/-- Read a number of at most nine digits. -/
def number? (c : Cursor) : Option (Nat × Cursor) :=
  let digits := c.rest.takeWhile isDigit
  if digits.length ≤ 9 then
    (Decimal.readNat? digits).map fun n => (n, c.skipMany digits.length)
  else none

/-- Read a version: two numbers around a point. -/
def version? (c : Cursor) : Option (Token × Cursor) := do
  let (major, c) ← number? (c.skipWhile isSpaceOrTab)
  if c.peek? ≠ some '.' then none
  let (minor, c) ← number? c.skip
  some (.version major minor, c)

/-- Read a handle and what it stands for. -/
def handle? (c : Cursor) : Option (Token × Cursor) := do
  let c := c.skipWhile isSpaceOrTab
  if c.peek? ≠ some '!' then none
  let (name, c) := Tag.handle c
  if (name ≠ ['!'] ∧ !Tag.isClosed name) ∨ !c.peek?.any isSpaceOrTab then none
  let c := c.skipWhile isSpaceOrTab
  let written := c.rest.takeWhile isFullTagChar
  let after := c.skipMany written.length
  if written = [] ∨ !after.atGap then none
  some (.handle (String.ofList name) (← Tag.unescape? written), after)

/-- Read the token of a directive, from its percent sign to the end of its line, which may hold a
comment. -/
def token? (c : Cursor) : Option (Token × Cursor) := do
  let name := c.rest.tail.takeWhile isNameChar
  let after := c.skip.skipMany name.length
  if !after.atGap then none
  let (token, after) ←
    if name = "YAML".toList then version? after
    else if name = "TAG".toList then handle? after
    else none
  let after := after.skipWhile isSpaceOrTab
  let after := if after.peek? = some '#' then after.skipWhile (!isBreak ·) else after
  if after.peek?.all isBreak then some (token, after.skipBreak) else none

end Directive

end VirtualApi.Yaml

import VirtualApi.Text.Split

/-!
# Places in a YAML text

A cursor is the text that is left together with its place: its line, its column in characters, and
the number of bytes before it. Line breaks are the five of the notation; a carriage return and a
line feed are one.
-/

namespace VirtualApi.Yaml

/-- A character that a text may hold: no control character but tab and line breaks. -/
def isAllowed (c : Char) : Bool :=
  let n := c.toNat
  n = 9 || n = 10 || n = 13 || (0x20 ≤ n && n ≤ 0x7E) || n = 0x85 || (0xA0 ≤ n && n ≤ 0xD7FF) ||
    (0xE000 ≤ n && n ≤ 0xFFFD) || 0x10000 ≤ n

/-- A space or a tab. -/
def isSpaceOrTab (c : Char) : Bool := c = ' ' || c = '\t'

/-- A character that ends a line. -/
def isBreak (c : Char) : Bool :=
  c = '\r' || c = '\n' || c.toNat = 0x85 || c.toNat = 0x2028 || c.toNat = 0x2029

/-- A space, a tab or a line break. -/
def isGap (c : Char) : Bool := isSpaceOrTab c || isBreak c

/-- What a line break stands for: a line feed, except for the two separators. -/
def breakChar (c : Char) : Char :=
  if c.toNat = 0x2028 || c.toNat = 0x2029 then c else '\n'

/-- The text that is left, and its place. -/
structure Cursor where
  rest : List Char
  line : Nat := 0
  column : Nat := 0
  /-- The number of UTF-8 bytes before this place. -/
  index : Nat := 0

namespace Cursor

/-- The next character. -/
def peek? (c : Cursor) : Option Char := c.rest.head?

/-- The character after the next. -/
def peekNext? (c : Cursor) : Option Char := c.rest.tail.head?

/-- The number of UTF-8 bytes that characters take. -/
def byteCount (text : List Char) : Nat := text.foldl (fun n c => n + c.utf8Size) 0

/-- The place after so many characters of a line. -/
def skipMany (c : Cursor) (count : Nat) : Cursor where
  rest := c.rest.drop count
  line := c.line
  column := c.column + count
  index := c.index + byteCount (c.rest.take count)

/-- The place after the next character. -/
def skip (c : Cursor) : Cursor := c.skipMany 1

/-- The place after the line break that comes next. -/
def skipBreak (c : Cursor) : Cursor :=
  match c.rest with
  | '\r' :: '\n' :: rest =>
      { rest := rest, line := c.line + 1, column := 0, index := c.index + 2 }
  | x :: rest =>
      { rest := rest, line := c.line + 1, column := 0, index := c.index + x.utf8Size }
  | [] => c

/-- The place after the characters of a class that come next. -/
def skipWhile (p : Char → Bool) (c : Cursor) : Cursor :=
  let skipped := (c.rest.takeWhile p).length
  c.skipMany skipped

/-- Nothing, or a gap, comes next. -/
def atGap (c : Cursor) : Bool := c.peek?.all isGap

/-- Nothing, or a gap, comes after the next character. -/
def nextAtGap (c : Cursor) : Bool := c.peekNext?.all isGap

/-- A line starts with three of a character and a gap. -/
def atMark (mark : Char) (c : Cursor) : Bool :=
  c.column = 0 &&
    match c.rest with
    | x :: y :: z :: rest => x = mark && y = mark && z = mark && rest.head?.all isGap
    | _ => false

/-- A line starts with the mark of the start or the end of a document. -/
def atDocumentMark (c : Cursor) : Bool := c.atMark '-' || c.atMark '.'

end Cursor

end VirtualApi.Yaml

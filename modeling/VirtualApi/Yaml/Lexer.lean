import VirtualApi.Yaml.Tag

/-!
# Cutting YAML into tokens

`Token.ofText?` reads a whole text. Outside brackets the indentation of a line opens and closes
block collections. A text is a possible key while its line lasts and it is at most 1024 bytes away;
the colon that makes it a key inserts the key's token, and the start of its mapping, in front of it.
-/

namespace VirtualApi.Yaml

/-- A place where a key may have started. -/
structure KeyPlace where
  /-- The number of tokens before it. -/
  tokens : Nat
  cursor : Cursor
  /-- Nothing but a key may stand here. -/
  required : Bool

/-- A text that is cut so far. -/
structure Lexer where
  cursor : Cursor
  /-- The tokens, in reverse. -/
  tokens : List Token := []
  /-- The number of tokens. -/
  count : Nat := 0
  /-- The columns of the block collections that are open, from the innermost. -/
  indents : List Nat := []
  /-- The place of a possible key, in each level of brackets from the innermost. -/
  keys : List (Option KeyPlace) := [none]
  /-- A key may start here. -/
  keyAllowed : Bool := true

namespace Lexer

/-- Inside brackets. -/
def inFlow (l : Lexer) : Bool := !l.keys.tail.isEmpty

/-- The column of the innermost block collection. -/
def indent? (l : Lexer) : Option Nat := l.indents.head?

/-- Add a token. -/
def put (l : Lexer) (token : Token) : Lexer :=
  { l with tokens := token :: l.tokens, count := l.count + 1 }

/-- Add a token in front of others: with so many tokens before it. -/
def insert (l : Lexer) (before : Nat) (token : Token) : Lexer :=
  let (later, earlier) := l.tokens.splitAt (l.count - before)
  { l with tokens := later ++ token :: earlier, count := l.count + 1 }

/-- Go on at another place. -/
def moveTo (l : Lexer) (cursor : Cursor) : Lexer := { l with cursor := cursor }

/-- Add a token that is one character. -/
def putSkip (l : Lexer) (token : Token) : Lexer := (l.moveTo l.cursor.skip).put token

/-- Allow or forbid keys from here on. -/
def allowKey (l : Lexer) (allowed : Bool) : Lexer := { l with keyAllowed := allowed }

/-! ## Indentation -/

/-- Open a block collection if the column lies deeper than the innermost one; its token is inserted
in front of others. -/
def openBlock (l : Lexer) (column before : Nat) (token : Token) : Lexer :=
  if l.inFlow || l.indent?.any (column ≤ ·) then l
  else { l with indents := column :: l.indents }.insert before token

/-- Close the block collections that lie deeper than a column; without a column, all. -/
def closeBlocks (column : Option Nat) (l : Lexer) : List Nat → Lexer
  | [] => { l with indents := [] }
  | indent :: outer =>
      if column.all (· < indent) then closeBlocks column (l.put .blockEnd) outer
      else { l with indents := indent :: outer }

/-- Close the block collections that a column ends; brackets end none. -/
def closeTo (l : Lexer) (column : Option Nat) : Lexer :=
  if l.inFlow then l else closeBlocks column l l.indents

/-! ## Possible keys -/

/-- How many bytes a key may take. -/
def maxKeyBytes : Nat := 1024

/-- A possible key that is too far back to be one is dropped; a required one is an error. -/
def refreshKey? (cursor : Cursor) : Option KeyPlace → Option (Option KeyPlace)
  | none => some none
  | some place =>
      if place.cursor.line < cursor.line || place.cursor.index + maxKeyBytes < cursor.index then
        if place.required then none else some none
      else some (some place)

/-- Drop the possible key of this level if it is too far back. Those of outer levels stay until
their level goes on. -/
def refreshKeys? (l : Lexer) : Option Lexer :=
  match l.keys with
  | [] => some l
  | key :: outer => (refreshKey? l.cursor key).map fun key => { l with keys := key :: outer }

/-- Drop the possible key of this level; a required one is an error. -/
def dropKey? (l : Lexer) : Option Lexer :=
  match l.keys with
  | some place :: outer => if place.required then none else some { l with keys := none :: outer }
  | _ => some l

/-- Note that a key may start here, where keys are allowed. -/
def noteKey? (l : Lexer) : Option Lexer :=
  if l.keyAllowed then do
    let place : KeyPlace := {
      tokens := l.count
      cursor := l.cursor
      required := !l.inFlow && l.indent? = some l.cursor.column }
    let l ← l.dropKey?
    some { l with keys := some place :: l.keys.tail }
  else some l

/-! ## The next token -/

/-- Go to the next token: blanks, comments and line breaks are passed over. Tabs may stand where no
key may start; a line break outside brackets allows keys. -/
def skipToToken : Nat → Lexer → Lexer
  | 0, l => l
  | fuel + 1, l =>
      let c := l.cursor
      match c.peek? with
      | some x =>
          if c.column = 0 && x.toNat = 0xFEFF then skipToToken fuel (l.moveTo c.skip)
          else if x = ' ' || (x = '\t' && (l.inFlow || !l.keyAllowed)) then
            skipToToken fuel (l.moveTo c.skip)
          else if x = '#' then skipToToken fuel (l.moveTo (c.skipWhile (!isBreak ·)))
          else if isBreak x then
            let l := l.moveTo c.skipBreak
            skipToToken fuel (if l.inFlow then l else l.allowKey true)
          else l
      | none => l

/-- The mark of the start or the end of a document. -/
def documentMark? (l : Lexer) (token : Token) : Option Lexer := do
  let l ← (l.closeTo none).dropKey?
  some (((l.allowKey false).moveTo (l.cursor.skipMany 3)).put token)

/-- A directive. -/
def directive? (l : Lexer) : Option Lexer := do
  let l ← (l.closeTo none).dropKey?
  let (token, after) ← Directive.token? l.cursor
  some (((l.allowKey false).moveTo after).put token)

/-- How many brackets may be open. -/
def maxBrackets : Nat := 1000

/-- A bracket that opens a collection. -/
def openFlow? (l : Lexer) (token : Token) : Option Lexer := do
  if maxBrackets < l.keys.length then none
  let l ← l.noteKey?
  some (({ l with keys := none :: l.keys }.allowKey true).putSkip token)

/-- A bracket that closes a collection. -/
def closeFlow? (l : Lexer) (token : Token) : Option Lexer := do
  let l ← l.dropKey?
  let keys := match l.keys with
    | _ :: outer :: rest => outer :: rest
    | keys => keys
  some (({ l with keys := keys }.allowKey false).putSkip token)

/-- A comma inside brackets. -/
def flowEntry? (l : Lexer) : Option Lexer := do
  let l ← l.dropKey?
  some ((l.allowKey true).putSkip .flowEntry)

/-- A dash in front of an item. -/
def blockEntry? (l : Lexer) : Option Lexer := do
  if !l.inFlow && !l.keyAllowed then none
  let l ← (l.openBlock l.cursor.column l.count .blockSequenceStart).dropKey?
  some ((l.allowKey true).putSkip .blockEntry)

/-- A question mark in front of a key. -/
def explicitKey? (l : Lexer) : Option Lexer := do
  if !l.inFlow && !l.keyAllowed then none
  let l ← (l.openBlock l.cursor.column l.count .blockMappingStart).dropKey?
  some ((l.allowKey !l.inFlow).putSkip .key)

/-- A colon in front of a value. -/
def value? (l : Lexer) : Option Lexer :=
  match l.keys with
  | some place :: outer =>
      let l := l.insert place.tokens .key
      let l := l.openBlock place.cursor.column place.tokens .blockMappingStart
      some (({ l with keys := none :: outer }.allowKey false).putSkip .value)
  | _ =>
      if !l.inFlow && !l.keyAllowed then none
      else
        let l := l.openBlock l.cursor.column l.count .blockMappingStart
        some ((l.allowKey !l.inFlow).putSkip .value)

/-- The name of an anchor or alias, which a gap or a mark has to follow. -/
def name? (l : Lexer) (token : String → Token) : Option Lexer := do
  let l ← l.noteKey?
  let start := l.cursor.skip
  let name := start.rest.takeWhile isNameChar
  let after := start.skipMany name.length
  if name = [] then none
  if after.atGap || after.peek?.any ("?:,]\x7d%@\x60".toList.contains ·) then
    some (((l.allowKey false).moveTo after).put (token (String.ofList name)))
  else none

/-- A tag, which a gap has to follow, or a comma inside brackets. -/
def tag? (l : Lexer) : Option Lexer := do
  let l ← l.noteKey?
  let (token, after) ← Tag.token? l.cursor
  if after.atGap || (l.inFlow && after.peek? = some ',') then
    some (((l.allowKey false).moveTo after).put token)
  else none

/-- A text in quotes. -/
def quoted? (l : Lexer) (quote : Char) (fuel : Nat) : Option Lexer := do
  let l ← l.noteKey?
  let (text, after) ← readQuoted? quote fuel [] l.cursor.skip
  some (((l.allowKey false).moveTo after).put (.scalar (String.ofList text.reverse) .other))

/-- A block text. -/
def block? (l : Lexer) (folded : Bool) (fuel : Nat) : Option Lexer := do
  let l ← l.dropKey?
  let (text, after) ← readBlock? folded l.indent? fuel l.cursor.skip
  let style := if folded then .other else .literal
  some (((l.allowKey true).moveTo after).put (.scalar (String.ofList text.reverse) style))

/-- A plain text. -/
def plain? (l : Lexer) (fuel : Nat) : Option Lexer := do
  let l ← l.noteKey?
  let indent := match l.indent? with
    | some column => column + 1
    | none => 0
  let (text, multiline, after) ← readPlain? l.inFlow indent fuel [] {} l.cursor
  some (((l.allowKey multiline).moveTo after).put (.scalar (String.ofList text.reverse) .plain))

/-- The characters that no plain text starts with. -/
def isIndicator (c : Char) : Bool :=
  isGap c || "-?:,[]\x7b\x7d#&*!|>'\"%@\x60".toList.contains c

/-- The token that starts with a character. -/
def step? (l : Lexer) (fuel : Nat) (x : Char) : Option Lexer :=
  let c := l.cursor
  if c.column = 0 && x = '%' then l.directive?
  else if c.atMark '-' then l.documentMark? .documentStart
  else if c.atMark '.' then l.documentMark? .documentEnd
  else if x = '[' then l.openFlow? .flowSequenceStart
  else if x = '\x7b' then l.openFlow? .flowMappingStart
  else if x = ']' then l.closeFlow? .flowSequenceEnd
  else if x = '\x7d' then l.closeFlow? .flowMappingEnd
  else if x = ',' then l.flowEntry?
  else if x = '-' && c.nextAtGap then l.blockEntry?
  else if x = '?' && (l.inFlow || c.nextAtGap) then l.explicitKey?
  else if x = ':' && (l.inFlow || c.nextAtGap) then l.value?
  else if x = '*' then l.name? .alias
  else if x = '&' then l.name? .anchor
  else if x = '!' then l.tag?
  else if x = '|' && !l.inFlow then l.block? false fuel
  else if x = '>' && !l.inFlow then l.block? true fuel
  else if x = '\'' || x = '"' then l.quoted? x fuel
  else if !isIndicator x || (x = '-' && !c.peekNext?.any isSpaceOrTab) ||
      (!l.inFlow && (x = '?' || x = ':') && !c.nextAtGap) then l.plain? fuel
  else none

/-- Read all tokens. -/
def run? : Nat → Lexer → Option Lexer
  | 0, _ => none
  | fuel + 1, l =>
      match (skipToToken (fuel + 1) l).refreshKeys? with
      | none => none
      | some l =>
          match l.cursor.peek? with
          | none => (l.closeTo none).dropKey?
          | some x =>
              match (l.closeTo (some l.cursor.column)).step? (fuel + 1) x with
              | none => none
              | some l => run? fuel l

end Lexer

/-- The tokens of a text. -/
def Token.ofText? (text : List Char) : Option (List Token) :=
  if text.all isAllowed then
    (Lexer.run? (text.length + 2) { cursor := { rest := text } }).map (·.tokens.reverse)
  else none

end VirtualApi.Yaml

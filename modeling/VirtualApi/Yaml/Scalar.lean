import VirtualApi.Yaml.Cursor

/-!
# Scalar texts of YAML

Scalars are written plain, in single or double quotes, or as a block whose line breaks are kept
(literal) or folded. In the first three, a line break inside the text counts as a space and further
ones as themselves. Each reader gives the text, in reverse, with the place after it.
-/

namespace VirtualApi.Yaml

open Text

/-! ## Gaps inside a text -/

/-- A gap inside a text: the blanks on its first line, or else its line breaks. All in reverse. -/
structure Gap where
  blanks : List Char := []
  /-- The first line break; an escaped one leaves nothing. -/
  first : Option (List Char) := none
  further : List Char := []

/-- The gap holds a line break. -/
def Gap.isMultiline (gap : Gap) : Bool := gap.first.isSome

/-- A text with a gap added: a single line break becomes a space. -/
def Gap.addTo (gap : Gap) (text : List Char) : List Char :=
  match gap.first with
  | none => gap.blanks ++ text
  | some ['\n'] => if gap.further = [] then ' ' :: text else gap.further ++ text
  | some first => gap.further ++ first ++ text

/-- Read a gap. A tab that stands left of the given column on a further line is an error. -/
def readGap? (tabColumn : Option Nat) : Nat → Gap → Cursor → Option (Gap × Cursor)
  | 0, gap, c => some (gap, c)
  | fuel + 1, gap, c =>
      match c.peek? with
      | none => some (gap, c)
      | some x =>
          if isSpaceOrTab x then
            if gap.isMultiline then
              if x = '\t' && tabColumn.any (c.column < ·) then none
              else readGap? tabColumn fuel gap c.skip
            else readGap? tabColumn fuel { gap with blanks := x :: gap.blanks } c.skip
          else if isBreak x then
            let gap := if gap.isMultiline then { gap with further := breakChar x :: gap.further }
              else { first := some [breakChar x] }
            readGap? tabColumn fuel gap c.skipBreak
          else some (gap, c)

/-! ## Plain texts -/

/-- A character that ends a plain text inside brackets. -/
def isFlowMark (c : Char) : Bool := c = ',' || c = '[' || c = ']' || c = '\x7b' || c = '\x7d'

/-- What comes next ends a plain text. -/
def endsPlain (inFlow : Bool) (c : Cursor) : Bool :=
  (c.peek? = some ':' && c.nextAtGap) || (inFlow && c.peek?.any isFlowMark)

/-- A colon inside brackets stands directly before a mark. -/
def isStrayColon (inFlow : Bool) (c : Cursor) : Bool :=
  inFlow && c.peek? = some ':' && c.peekNext?.any fun x => isFlowMark x || x = '?'

/-- Read the characters of a plain text up to a gap or its end. -/
def readWord? (inFlow : Bool) : Nat → List Char → Cursor → Option (List Char × Cursor)
  | 0, text, c => some (text, c)
  | fuel + 1, text, c =>
      match c.peek? with
      | none => some (text, c)
      | some x =>
          if isGap x then some (text, c)
          else if isStrayColon inFlow c then none
          else if endsPlain inFlow c then some (text, c)
          else readWord? inFlow fuel (x :: text) c.skip

/-- Read a plain text after what was read of it and the gap after that. Outside brackets it goes on
only on lines that are indented at least to a column. The answer says whether line breaks follow. -/
def readPlain? (inFlow : Bool) (indent : Nat) :
    Nat → List Char → Gap → Cursor → Option (List Char × Bool × Cursor)
  | 0, _, _, _ => none
  | fuel + 1, text, gap, c =>
      if c.atDocumentMark || c.peek? = some '#' then some (text, gap.isMultiline, c)
      else
        match readWord? inFlow (fuel + 1) [] c with
        | none => none
        | some (word, after) =>
            let text := if word = [] then text else word ++ gap.addTo text
            let gap := if word = [] then gap else {}
            if after.peek?.any isGap then
              match readGap? (some indent) (fuel + 1) gap after with
              | none => none
              | some (gap, next) =>
                  if !inFlow && next.column < indent then some (text, gap.isMultiline, next)
                  else readPlain? inFlow indent fuel text gap next
            else some (text, gap.isMultiline, after)

/-! ## Quoted texts -/

/-- The character that so many hexadecimal digits stand for; surrogates and numbers beyond the code
points have none. -/
def hexChar? (digits : List Char) (count : Nat) : Option Char := do
  let values ← (digits.take count).mapM hexValue?
  if values.length ≠ count then none
  let n := values.foldl (fun n d => n * 16 + d) 0
  if n < 0xD800 ∨ (0xDFFF < n ∧ n ≤ 0x10FFFF) then some (Char.ofNat n) else none

/-- What a letter after a backslash stands for. -/
def escapes : List (Char × Nat) :=
  [('0', 0), ('a', 7), ('b', 8), ('t', 9), ('\t', 9), ('n', 10), ('v', 11), ('f', 12), ('r', 13),
    ('e', 27), (' ', 32), ('"', 34), ('/', 47), ('\\', 92), ('N', 0x85), ('_', 0xA0), ('L', 0x2028),
    ('P', 0x2029)]

/-- Read what follows a backslash; the number of characters read comes with it. -/
def readEscape? : List Char → Option (Char × Nat)
  | 'x' :: rest => (hexChar? rest 2).map fun c => (c, 3)
  | 'u' :: rest => (hexChar? rest 4).map fun c => (c, 5)
  | 'U' :: rest => (hexChar? rest 8).map fun c => (c, 9)
  | c :: _ => (escapes.lookup c).map fun n => (Char.ofNat n, 1)
  | [] => none

/-- Read the characters of a quoted text up to a gap, an escaped line break or the closing quote. -/
def readQuotedWord? (quote : Char) : Nat → List Char → Cursor → Option (List Char × Gap × Cursor)
  | 0, text, c => some (text, {}, c)
  | fuel + 1, text, c =>
      match c.peek? with
      | none => some (text, {}, c)
      | some x =>
          if isGap x then some (text, {}, c)
          else if quote = '\'' && x = '\'' && c.peekNext? = some '\'' then
            readQuotedWord? quote fuel ('\'' :: text) (c.skipMany 2)
          else if x = quote then some (text, {}, c)
          else if quote = '"' && x = '\\' then
            if c.peekNext?.any isBreak then some (text, { first := some [] }, c.skip.skipBreak)
            else
              match readEscape? c.skip.rest with
              | none => none
              | some (y, count) => readQuotedWord? quote fuel (y :: text) (c.skip.skipMany count)
          else readQuotedWord? quote fuel (x :: text) c.skip

/-- Read a quoted text after its opening quote. -/
def readQuoted? (quote : Char) : Nat → List Char → Cursor → Option (List Char × Cursor)
  | 0, _, _ => none
  | fuel + 1, text, c =>
      if c.atDocumentMark || c.rest.isEmpty then none
      else
        match readQuotedWord? quote (fuel + 1) text c with
        | none => none
        | some (text, gap, after) =>
            if after.peek? = some quote then some (text, after.skip)
            else
              match readGap? none (fuel + 1) gap after with
              | none => none
              | some (gap, next) => readQuoted? quote fuel (gap.addTo text) next

/-! ## Block texts -/

/-- What happens to the line breaks at the end of a block text. -/
inductive Chomping where
  | strip
  | clip
  | keep
deriving DecidableEq

/-- The heading of a block text: the signs after its mark. -/
structure BlockHeading where
  chomping : Chomping := .clip
  /-- How much deeper the text is indented than what it stands in, when it is said. -/
  increment : Option Nat := none

/-- Read a sign for the end of a block text. -/
def readChomping? (c : Cursor) : Option (Chomping × Cursor) :=
  match c.peek? with
  | some '+' => some (.keep, c.skip)
  | some '-' => some (.strip, c.skip)
  | _ => none

/-- Read a digit for the indentation of a block text; zero is an error. -/
def readIncrement? (c : Cursor) : Option (Option Nat × Cursor) :=
  match c.peek? with
  | some x =>
      if isDigit x then if x = '0' then none else some (some (x.toNat - 48), c.skip)
      else some (none, c)
  | none => some (none, c)

/-- Read the signs of a heading, in either order. -/
def readSigns? (c : Cursor) : Option (BlockHeading × Cursor) := do
  match readChomping? c with
  | some (chomping, c) =>
      let (increment, c) ← readIncrement? c
      some (⟨chomping, increment⟩, c)
  | none =>
      let (increment, c) ← readIncrement? c
      match increment, readChomping? c with
      | some _, some (chomping, c) => some (⟨chomping, increment⟩, c)
      | _, _ => some (⟨.clip, increment⟩, c)

/-- Read a heading up to the end of its line, which may hold a comment. -/
def readHeading? (c : Cursor) : Option (BlockHeading × Cursor) := do
  let (heading, c) ← readSigns? c
  let c := c.skipWhile isSpaceOrTab
  let c := if c.peek? = some '#' then c.skipWhile (!isBreak ·) else c
  match c.peek? with
  | none => some (heading, c)
  | some x => if isBreak x then some (heading, c.skipBreak) else none

/-- Read the indentation and the empty lines before a line of a block text. Without a column to
start at, the deepest column reached comes with the answer. Line breaks are in reverse. -/
def readBreaks? (indent : Option Nat) :
    Nat → Nat → List Char → Cursor → Option (Nat × List Char × Cursor)
  | 0, _, _, _ => none
  | fuel + 1, deepest, breaks, c =>
      let inside := indent.all (c.column < ·)
      match c.peek? with
      | some ' ' =>
          if inside then readBreaks? indent fuel deepest breaks c.skip
          else some (max deepest c.column, breaks, c)
      | some '\t' => if inside then none else some (max deepest c.column, breaks, c)
      | some x =>
          if isBreak x then
            readBreaks? indent fuel (max deepest c.column) (breakChar x :: breaks) c.skipBreak
          else some (max deepest c.column, breaks, c)
      | none => some (max deepest c.column, breaks, c)

/-- A block text under way. -/
structure BlockText where
  /-- The lines read, in reverse. -/
  text : List Char := []
  /-- The line break after the last line. -/
  last : List Char := []
  /-- The line breaks of the empty lines after that, in reverse. -/
  further : List Char := []
  /-- The last line starts with a blank. -/
  startsBlank : Bool := false

/-- The text up to the start of the next line, which may start with a blank: a folded line break
between two lines that do not becomes a space. -/
def BlockText.joined (folded : Bool) (block : BlockText) (blank : Bool) : List Char :=
  if folded && block.last = ['\n'] && !block.startsBlank && !blank then
    block.further ++ (if block.further = [] then ' ' :: block.text else block.text)
  else block.further ++ block.last ++ block.text

/-- Read the lines of a block text that start at a column. -/
def readLines? (folded : Bool) (indent : Nat) :
    Nat → BlockText → Cursor → Option (BlockText × Cursor)
  | 0, _, _ => none
  | fuel + 1, block, c =>
      if c.column ≠ indent || c.rest.isEmpty then some (block, c)
      else
        let blank := c.peek?.any isSpaceOrTab
        let line := c.rest.takeWhile (!isBreak ·)
        let after := c.skipMany line.length
        let last := match after.peek? with
          | some x => [breakChar x]
          | none => []
        match readBreaks? (some indent) (fuel + 1) 0 [] after.skipBreak with
        | none => none
        | some (_, further, next) =>
            let text := line.reverse ++ block.joined folded blank
            readLines? folded indent fuel ⟨text, last, further, blank⟩ next

/-- Read a block text after its mark; it stands in something indented to a column, or in nothing. -/
def readBlock? (folded : Bool) (parent : Option Nat) (fuel : Nat) (c : Cursor) :
    Option (List Char × Cursor) := do
  let (heading, c) ← readHeading? c
  let given := heading.increment.map (parent.getD 0 + ·)
  let (deepest, breaks, c) ← readBreaks? given fuel 0 [] c
  let least := match parent with
    | some column => column + 1
    | none => 1
  let indent := given.getD (max deepest (max least 1))
  let (block, c) ← readLines? folded indent fuel { further := breaks } c
  match heading.chomping with
  | .strip => some (block.text, c)
  | .clip => some (block.last ++ block.text, c)
  | .keep => some (block.further ++ block.last ++ block.text, c)

end VirtualApi.Yaml

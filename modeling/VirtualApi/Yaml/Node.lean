import VirtualApi.Yaml.Lexer

/-!
# Nodes of YAML

A document is a tree of scalars, sequences and mappings, each with or without a tag. An anchor names
a node, and an alias stands for the node of its anchor; it is kept as a number, and
`Document.target?` looks it up. `Document.ofText?` reads a text of at most one document.
-/

namespace VirtualApi.Yaml

/-- A node of a document. -/
inductive Node where
  | scalar (text : String) (style : ScalarStyle) (tag : Option String)
  | sequence (items : List Node) (tag : Option String)
  | mapping (entries : List (Node × Node)) (tag : Option String)
  | alias (anchor : Nat)
deriving Inhabited, Repr

namespace Node

/-- The node that stands where nothing is written. -/
def blank : Node := .scalar "" .plain none

/-- A node with its tag. -/
def withTag (tag : Option String) : Node → Node
  | .scalar text style _ => .scalar text style tag
  | .sequence items _ => .sequence items tag
  | .mapping entries _ => .mapping entries tag
  | node => node

end Node

/-- What stands in front of a node. -/
structure Properties where
  anchor : Option String := none
  tag : Option String := none
deriving DecidableEq, Repr

/-- Something stands in front of the node. -/
def Properties.isGiven (p : Properties) : Bool := p.anchor.isSome || p.tag.isSome

/-- What is known while nodes are read. -/
structure Reading where
  tokens : List Token
  /-- The number of each anchor by its name. -/
  anchors : List (String × Nat) := []
  /-- Which node each anchor names: nodes are numbered where they start. -/
  named : List (Nat × Nat) := []
  /-- The nodes that anchors name. -/
  nodes : List (Nat × Node) := []
  /-- What the handles of tags stand for. -/
  handles : List (String × String) := []
  /-- The number of starts and ends of nodes so far. -/
  events : Nat := 0

namespace Reading

/-- Go on after a token. -/
def drop (r : Reading) : Reading := { r with tokens := r.tokens.tail }

/-- Count starts and ends of nodes. -/
def count (r : Reading) (events : Nat) : Reading := { r with events := r.events + events }

/-- An anchor names the node that starts next. Names are numbered by how many there are. -/
def name (r : Reading) (anchor : String) : Reading :=
  let number := r.anchors.length
  { r with
    anchors := (anchor, number) :: r.anchors.filter (·.1 ≠ anchor)
    named := (number, r.events) :: r.named.filter (·.1 ≠ number) }

/-- Keep a node that an anchor names; one whose anchor has come to name another node is left out. -/
def keep (r : Reading) (start : Nat) (node : Node) : Reading :=
  { r with nodes := (start, node) :: r.nodes.filter fun (place, _) => r.named.any (·.2 = place) }

/-- The whole tag behind a handle; one without a handle is whole. -/
def resolveTag? (r : Reading) (handle rest : String) : Option String :=
  if handle = "" then some rest else (r.handles.lookup handle).map (· ++ rest)

/-- Take an anchor in front of a node. -/
def takeAnchor (r : Reading) : Option String × Reading :=
  match r.tokens with
  | .anchor name :: _ => (some name, r.drop)
  | _ => (none, r)

/-- Take a tag in front of a node; its handle has to stand for something. -/
def takeTag? (r : Reading) : Option (Option String × Reading) :=
  match r.tokens with
  | .tag handle rest :: _ => (r.resolveTag? handle rest).map fun tag => (some tag, r.drop)
  | _ => some (none, r)

/-- Take what stands in front of a node: an anchor and a tag in either order. -/
def properties? (r : Reading) : Option (Properties × Reading) := do
  let (first, r) := r.takeAnchor
  let (tag, r) ← r.takeTag?
  match first with
  | some _ => some (⟨first, tag⟩, r)
  | none =>
      let (anchor, r) := if tag.isSome then r.takeAnchor else (none, r)
      some (⟨anchor, tag⟩, r)

/-- The next token is one of these. -/
def nextIn (r : Reading) (tokens : List Token) : Bool := r.tokens.head?.any (tokens.contains ·)

end Reading

/-- The tokens that end the place of a key or value in a block mapping. -/
def blockMappingStops : List Token := [.key, .value, .blockEnd]

mutual

/-- Read a node. `room` is how many more levels may open, `inBlock` whether block collections may
start, and `bare` whether items may stand without an indentation of their own. -/
def readNode? : Nat → Nat → Bool → Bool → Reading → Option (Node × Reading)
  | 0, _, _, _, _ => none
  | fuel + 1, room, inBlock, bare, r =>
      match r.tokens with
      | .alias name :: _ =>
          match r.anchors.lookup name with
          | some number => some (.alias number, r.drop.count 1)
          | none => none
      | _ =>
          match r.properties? with
          | none => none
          | some (properties, next) =>
              let start := next.events
              let next := match properties.anchor with
                | some name => next.name name
                | none => next
              match readContent? fuel room inBlock bare properties.isGiven next with
              | none => none
              | some (node, after) =>
                  let node := node.withTag properties.tag
                  some (node, if properties.anchor.isSome then after.keep start node else after)

/-- Read a node without what stands in front of it; `given` says that something does, and then the
node may be blank. -/
def readContent? : Nat → Nat → Bool → Bool → Bool → Reading → Option (Node × Reading)
  | 0, _, _, _, _, _ => none
  | fuel + 1, room, inBlock, bare, given, r =>
      let blank? := if given then some (Node.blank, r.count 1) else none
      match r.tokens with
      | .scalar text style :: _ => some (.scalar text style none, r.drop.count 1)
      | .blockEntry :: _ =>
          if bare && room ≠ 0 then readBareItems? fuel (room - 1) [] (r.count 1) else blank?
      | .flowSequenceStart :: _ =>
          if room = 0 then none else readFlowItems? fuel (room - 1) [] (r.drop.count 1)
      | .flowMappingStart :: _ =>
          if room = 0 then none else readFlowEntries? fuel (room - 1) [] (r.drop.count 1)
      | .blockSequenceStart :: _ =>
          if inBlock && room ≠ 0 then readBlockItems? fuel (room - 1) [] (r.drop.count 1)
          else blank?
      | .blockMappingStart :: _ =>
          if inBlock && room ≠ 0 then readBlockEntries? fuel (room - 1) [] (r.drop.count 1)
          else blank?
      | _ => blank?

/-- Read a node, or nothing in front of one of these tokens or the end. -/
def readOptional? :
    Nat → Nat → Bool → Bool → List Token → Reading → Option (Node × Reading)
  | 0, _, _, _, _, _ => none
  | fuel + 1, room, inBlock, bare, stops, r =>
      if r.nextIn stops then some (.blank, r.count 1) else readNode? fuel room inBlock bare r

/-- Read the items of an indented sequence; those before are in reverse. -/
def readBlockItems? : Nat → Nat → List Node → Reading → Option (Node × Reading)
  | 0, _, _, _ => none
  | fuel + 1, room, items, r =>
      match r.tokens with
      | .blockEntry :: _ =>
          match readOptional? fuel room true false [.blockEntry, .blockEnd] r.drop with
          | some (item, r) => readBlockItems? fuel room (item :: items) r
          | none => none
      | .blockEnd :: _ => some (.sequence items.reverse none, r.drop.count 1)
      | _ => none

/-- Read the items of a sequence without an indentation of its own. -/
def readBareItems? : Nat → Nat → List Node → Reading → Option (Node × Reading)
  | 0, _, _, _ => none
  | fuel + 1, room, items, r =>
      match r.tokens with
      | .blockEntry :: _ =>
          match readOptional? fuel room true false (.blockEntry :: blockMappingStops) r.drop with
          | some (item, r) => readBareItems? fuel room (item :: items) r
          | none => none
      | _ => some (.sequence items.reverse none, r.count 1)

/-- Read the entries of an indented mapping; those before are in reverse. -/
def readBlockEntries? : Nat → Nat → List (Node × Node) → Reading → Option (Node × Reading)
  | 0, _, _, _ => none
  | fuel + 1, room, entries, r =>
      match r.tokens with
      | .key :: _ =>
          match readOptional? fuel room true true blockMappingStops r.drop with
          | none => none
          | some (key, r) =>
              match r.tokens with
              | .value :: _ =>
                  match readOptional? fuel room true true blockMappingStops r.drop with
                  | some (value, r) => readBlockEntries? fuel room ((key, value) :: entries) r
                  | none => none
              | _ => readBlockEntries? fuel room ((key, .blank) :: entries) (r.count 1)
      | .blockEnd :: _ => some (.mapping entries.reverse none, r.drop.count 1)
      | _ => none

/-- Read the items of a sequence in brackets, up to the closing one. -/
def readFlowItems? : Nat → Nat → List Node → Reading → Option (Node × Reading)
  | 0, _, _, _ => none
  | fuel + 1, room, items, r =>
      match r.tokens with
      | .flowSequenceEnd :: _ => some (.sequence items.reverse none, r.drop.count 1)
      | _ =>
          match readFlowItem? fuel room r with
          | none => none
          | some (item, r) =>
              match r.tokens with
              | .flowEntry :: _ => readFlowItems? fuel room (item :: items) r.drop
              | .flowSequenceEnd :: _ =>
                  some (.sequence (item :: items).reverse none, r.drop.count 1)
              | _ => none

/-- Read an item of a sequence in brackets: a node, or a single entry of a mapping. -/
def readFlowItem? : Nat → Nat → Reading → Option (Node × Reading)
  | 0, _, _ => none
  | fuel + 1, room, r =>
      match r.tokens with
      | .key :: _ =>
          if room = 0 then none
          else
            let stops := [.flowEntry, .flowSequenceEnd]
            let r := r.drop.count 1
            let key? :=
              if r.nextIn (.value :: stops) then some (.blank, r.drop.count 1)
              else readNode? fuel (room - 1) false false r
            match key? with
            | none => none
            | some (key, r) =>
                match r.tokens with
                | .value :: _ =>
                    match readOptional? fuel (room - 1) false false stops r.drop with
                    | some (value, r) => some (.mapping [(key, value)] none, r.count 1)
                    | none => none
                | _ => some (.mapping [(key, .blank)] none, r.count 2)
      | _ => readNode? fuel room false false r

/-- Read the entries of a mapping in brackets, up to the closing one. -/
def readFlowEntries? : Nat → Nat → List (Node × Node) → Reading → Option (Node × Reading)
  | 0, _, _, _ => none
  | fuel + 1, room, entries, r =>
      match r.tokens with
      | .flowMappingEnd :: _ => some (.mapping entries.reverse none, r.drop.count 1)
      | _ =>
          match readFlowEntry? fuel room r with
          | none => none
          | some (entry, r) =>
              match r.tokens with
              | .flowEntry :: _ => readFlowEntries? fuel room (entry :: entries) r.drop
              | .flowMappingEnd :: _ =>
                  some (.mapping (entry :: entries).reverse none, r.drop.count 1)
              | _ => none

/-- Read an entry of a mapping in brackets: a key with a value, or a node whose value is blank. -/
def readFlowEntry? : Nat → Nat → Reading → Option ((Node × Node) × Reading)
  | 0, _, _ => none
  | fuel + 1, room, r =>
      let stops := [.flowEntry, .flowMappingEnd]
      match r.tokens with
      | .key :: _ =>
          match readOptional? fuel room false false (.value :: stops) r.drop with
          | none => none
          | some (key, r) =>
              match r.tokens with
              | .value :: _ =>
                  match readOptional? fuel room false false stops r.drop with
                  | some (value, r) => some ((key, value), r)
                  | none => none
              | _ => some ((key, .blank), r.count 1)
      | _ =>
          match readNode? fuel room false false r with
          | some (key, r) => some ((key, .blank), r.count 1)
          | none => none

end

/-! ## Documents -/

/-- A document that is read. -/
structure Document where
  /-- The node of the document, unless the text holds nothing at all. -/
  root : Option Node
  /-- Which node each anchor names. -/
  named : List (Nat × Nat) := []
  nodes : List (Nat × Node) := []
  /-- The number of starts and ends of nodes. -/
  events : Nat := 1

namespace Document

/-- How many levels nodes may nest. -/
def maxLevels : Nat := 1000

/-- The node that an anchor names. -/
def target? (document : Document) (anchor : Nat) : Option Node :=
  (document.named.lookup anchor).bind (document.nodes.lookup ·)

/-- Read a node that fills a document. -/
def readRoot? (r : Reading) : Option (Node × Reading) :=
  readNode? (8 * r.tokens.length + 8) maxLevels true false r

/-- What handles stand for unless a directive says otherwise. -/
def defaultHandles : List (String × String) := [("!", "!"), ("!!", "tag:yaml.org,2002:")]

/-- Take the directives in front of a document: its version, which is given at most once, and what
handles stand for, each given at most once. -/
def takeDirectives? (versioned : Bool) (handles : List (String × String)) :
    List Token → Option (List (String × String) × List Token)
  | .version major minor :: rest =>
      if versioned || major ≠ 1 || (minor ≠ 1 && minor ≠ 2) then none
      else takeDirectives? true handles rest
  | .handle name meaning :: rest =>
      if (handles.lookup name).isSome then none
      else takeDirectives? versioned ((name, meaning) :: handles) rest
  | tokens => some (handles, tokens)

/-- Read the node of a document. After the mark of its start nothing may stand for it; behind
directives that mark has to stand. -/
def readMarked? (tokens : List Token) : Option (Node × Reading) := do
  let (handles, rest) ← takeDirectives? false [] tokens
  let r : Reading := { tokens := rest, handles := handles ++ defaultHandles }
  match rest with
  | .documentStart :: content =>
      let r := r.drop
      if content = [] || r.nextIn [.documentStart, .documentEnd] then some (.blank, r.count 1)
      else readRoot? r
  | _ => if rest.length = tokens.length then readRoot? r else none

/-- Only marks of ends may follow a document. -/
def ends (tokens : List Token) : Bool := tokens.all (· = .documentEnd)

/-- Read the tokens of a text of at most one document. -/
def ofTokens? (tokens : List Token) : Option Document :=
  match tokens with
  | [] => some { root := none }
  | _ => do
      let (node, r) ← readMarked? tokens
      if ends r.tokens then
        some { root := some node, named := r.named, nodes := r.nodes, events := r.events }
      else none

/-- Read a text of at most one document. -/
def ofText? (text : List Char) : Option Document := (Token.ofText? text).bind ofTokens?

end Document

end VirtualApi.Yaml

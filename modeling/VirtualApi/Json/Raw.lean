import VirtualApi.Json.Token

/-!
# JSON as it is written

A `RawJson` is a text whose brackets match, before it is decided what it means: the fields of an
object stand in the order of the text, repeated ones included, and numbers and texts may stand for
nothing. `RawJson.ofText?` reads one token by token with a list of the collections that are open, so
that a text may nest as deep as it likes. `RawJson.value?` is the value, if everything in it has one
and it does not nest too deep.
-/

namespace VirtualApi

/-- JSON as it is written. -/
inductive RawJson where
  | null
  | bool (value : Bool)
  | num (value : Option Number)
  | str (value : Option String)
  | arr (items : List RawJson)
  | obj (fields : List (Option String × RawJson))
deriving Repr, Inhabited

namespace RawJson

/-- A collection that is open, with what it holds so far in reverse. -/
inductive Opened where
  | array (items : List RawJson)
  | object (fields : List (Option String × RawJson))
  /-- An object, and the key of the field whose value comes next. -/
  | field (key : Option String) (fields : List (Option String × RawJson))

/-- What may come next. -/
inductive Expected where
  | value
  | valueOrClose
  | key
  | keyOrClose
  | colon (key : Option String)
  /-- A value is complete: the collection around it goes on or is closed. -/
  | separator (complete : RawJson)

/-- A text that is read so far. -/
structure Progress where
  opened : List Opened := []
  expected : Expected := .value

namespace Progress

/-- Go on after a complete value. -/
def complete (opened : List Opened) (value : RawJson) : Progress := ⟨opened, .separator value⟩

/-- Go on after a token where a value may start. -/
def startValue? (opened : List Opened) : JsonToken → Option Progress
  | .openArray => some ⟨.array [] :: opened, .valueOrClose⟩
  | .openObject => some ⟨.object [] :: opened, .keyOrClose⟩
  | .null => some (complete opened .null)
  | .bool b => some (complete opened (.bool b))
  | .num n => some (complete opened (.num n))
  | .str s => some (complete opened (.str s))
  | _ => none

/-- Go on after a token that follows a complete value. -/
def endValue? (value : RawJson) : List Opened → JsonToken → Option Progress
  | .array items :: opened, .comma => some ⟨.array (value :: items) :: opened, .value⟩
  | .array items :: opened, .closeArray => some (complete opened (.arr (value :: items).reverse))
  | .field key fields :: opened, .comma => some ⟨.object ((key, value) :: fields) :: opened, .key⟩
  | .field key fields :: opened, .closeObject =>
      some (complete opened (.obj ((key, value) :: fields).reverse))
  | _, _ => none

/-- Go on after a token. -/
def step? (p : Progress) (token : JsonToken) : Option Progress :=
  match p.expected, token, p.opened with
  | .value, token, opened => startValue? opened token
  | .valueOrClose, .closeArray, .array _ :: opened => some (complete opened (.arr []))
  | .valueOrClose, token, opened => startValue? opened token
  | .key, .str key, opened | .keyOrClose, .str key, opened => some ⟨opened, .colon key⟩
  | .keyOrClose, .closeObject, .object _ :: opened => some (complete opened (.obj []))
  | .colon key, .colon, .object fields :: opened => some ⟨.field key fields :: opened, .value⟩
  | .separator value, token, opened => endValue? value opened token
  | _, _, _ => none

end Progress

/-- Read tokens that are one value. -/
def ofTokens? (tokens : List JsonToken) : Option RawJson :=
  match tokens.foldlM Progress.step? {} with
  | some ⟨[], .separator value⟩ => some value
  | _ => none

/-- Read a whole text as one value. -/
def ofText? (text : List Char) : Option RawJson := (JsonToken.ofText? text).bind ofTokens?

/-- The value that is written, if it nests at most so deep and every text and number in it stands
for something. The last of several fields with one key counts. -/
def value? : Nat → RawJson → Option Json
  | _, .null => some .null
  | _, .bool b => some (.bool b)
  | _, .num n => n.map .num
  | _, .str s => s.map .str
  | room + 1, .arr items => (items.mapM (value? room)).map .arr
  | room + 1, .obj fields => do
      let read ← fields.mapM fun field => do
        let key ← field.1
        pure (key, ← value? room field.2)
      some (.object read)
  | 0, .arr _ | 0, .obj _ => none

/-- How many levels a value may nest. -/
def maxLevels : Nat := 127

end RawJson

/-- A reader of what is written, which is told how many more levels may open. -/
abbrev RawReader (α : Type) := Nat → RawJson → Option α

/-- Read a whole text with a reader. -/
def RawReader.ofText? {α : Type} (read : RawReader α) (text : List Char) : Option α :=
  (RawJson.ofText? text).bind (read RawJson.maxLevels)

/-- Read a whole text as one value. -/
def Json.read? (text : List Char) : Option Json :=
  RawReader.ofText? RawJson.value? text

end VirtualApi

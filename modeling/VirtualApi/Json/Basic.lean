import VirtualApi.Decimal.Double
import VirtualApi.Decimal.Natural
import VirtualApi.Text.Split

/-!
# JSON values

A value is a tree. The fields of an object are kept in increasing key order with each key once, so
equal objects are equal values; `Json.object` puts entries into that form and `Fields.set` keeps it.
Numbers are integers of the 64-bit ranges or finite doubles. Parts of a value are addressed by a
path of reference tokens, which is what a JSON pointer is once it is read.
-/

namespace VirtualApi

open Decimal

/-- A JSON number: an integer, or a double for every number written with a fraction or an exponent
and for integers outside the 64-bit ranges. -/
inductive Number where
  | int (value : Int)
  | double (value : Double)
deriving DecidableEq, Repr, Inhabited

/-- A JSON value. -/
inductive Json where
  | null
  | bool (value : Bool)
  | num (value : Number)
  | str (value : String)
  | arr (items : List Json)
  | obj (fields : List (String × Json))
deriving Repr, Inhabited

namespace Json

mutual

/-- Equality of values is decidable. -/
def decEq : (a b : Json) → Decidable (a = b)
  | .null, .null => .isTrue rfl
  | .bool x, .bool y => if h : x = y then .isTrue (by rw [h]) else .isFalse (by simpa using h)
  | .num x, .num y => if h : x = y then .isTrue (by rw [h]) else .isFalse (by simpa using h)
  | .str x, .str y => if h : x = y then .isTrue (by rw [h]) else .isFalse (by simpa using h)
  | .arr x, .arr y =>
      match decEqItems x y with
      | .isTrue h => .isTrue (by rw [h])
      | .isFalse h => .isFalse (by simpa using h)
  | .obj x, .obj y =>
      match decEqFields x y with
      | .isTrue h => .isTrue (by rw [h])
      | .isFalse h => .isFalse (by simpa using h)
  | .null, .bool _ | .null, .num _ | .null, .str _ | .null, .arr _ | .null, .obj _
  | .bool _, .null | .bool _, .num _ | .bool _, .str _ | .bool _, .arr _ | .bool _, .obj _
  | .num _, .null | .num _, .bool _ | .num _, .str _ | .num _, .arr _ | .num _, .obj _
  | .str _, .null | .str _, .bool _ | .str _, .num _ | .str _, .arr _ | .str _, .obj _
  | .arr _, .null | .arr _, .bool _ | .arr _, .num _ | .arr _, .str _ | .arr _, .obj _
  | .obj _, .null | .obj _, .bool _ | .obj _, .num _ | .obj _, .str _ | .obj _, .arr _ =>
      .isFalse (by simp)

/-- Equality of item lists is decidable. -/
def decEqItems : (a b : List Json) → Decidable (a = b)
  | [], [] => .isTrue rfl
  | x :: r, y :: s =>
      match decEq x y, decEqItems r s with
      | .isTrue h, .isTrue k => .isTrue (by rw [h, k])
      | .isFalse h, _ => .isFalse (by simp [h])
      | _, .isFalse k => .isFalse (by simp [k])
  | [], _ :: _ | _ :: _, [] => .isFalse (by simp)

/-- Equality of field lists is decidable. -/
def decEqFields : (a b : List (String × Json)) → Decidable (a = b)
  | [], [] => .isTrue rfl
  | (k, x) :: r, (l, y) :: s =>
      match (inferInstance : Decidable (k = l)), decEq x y, decEqFields r s with
      | .isTrue g, .isTrue h, .isTrue j => .isTrue (by rw [g, h, j])
      | .isFalse g, _, _ => .isFalse (by simp [g])
      | _, .isFalse h, _ => .isFalse (by simp [h])
      | _, _, .isFalse j => .isFalse (by simp [j])
  | [], _ :: _ | _ :: _, [] => .isFalse (by simp)

end

/-- Two values are equal when they are the same tree. -/
instance : DecidableEq Json := decEq

end Json

/-- The entries of a map in increasing key order, each key once. -/
abbrev Entries (α : Type) := List (String × α)

namespace Entries

variable {α β : Type}

/-- The value stored for a key. -/
def get? (key : String) : Entries α → Option α
  | [] => none
  | (k, v) :: rest => if k = key then some v else get? key rest

/-- Store a value for a key, in place of the one that was there. -/
def set (key : String) (value : α) : Entries α → Entries α
  | [] => [(key, value)]
  | (k, v) :: rest =>
      if key = k then (key, value) :: rest
      else if key < k then (key, value) :: (k, v) :: rest
      else (k, v) :: set key value rest

/-- Remove a key. -/
def erase (key : String) (entries : Entries α) : Entries α :=
  entries.filter fun (k, _) => k ≠ key

/-- Entries in any order as a map; the last of several for one key counts. -/
def ofList (entries : List (String × α)) : Entries α :=
  entries.foldl (fun map (k, v) => set k v map) []

/-- Apply a function to every value. -/
def mapValues (f : α → β) (entries : Entries α) : Entries β :=
  entries.map fun (k, v) => (k, f v)

end Entries

namespace Json

/-- An object with these entries; the last of several for one key counts. -/
def object (entries : List (String × Json)) : Json := .obj (Entries.ofList entries)

/-- An integer. -/
def int (n : Int) : Json := .num (.int n)

/-- A natural number. -/
def nat (n : Nat) : Json := int n

/-- The empty object. -/
def empty : Json := .obj []

/-- A list of texts. -/
def texts (items : List String) : Json := .arr (items.map .str)

/-- A map of texts. -/
def textMap (entries : Entries String) : Json := .obj (entries.mapValues .str)

/-- The text, when the value is one. -/
def str? : Json → Option String
  | .str s => some s
  | _ => none

/-- The truth value, when the value is one. -/
def bool? : Json → Option Bool
  | .bool b => some b
  | _ => none

/-- The items, when the value is an array. -/
def arr? : Json → Option (List Json)
  | .arr items => some items
  | _ => none

/-- The fields, when the value is an object. -/
def obj? : Json → Option (Entries Json)
  | .obj fields => some fields
  | _ => none

/-- The value is an object. -/
def isObject : Json → Bool
  | .obj _ => true
  | _ => false

/-- The integer, when the value is one of the signed 64-bit range. -/
def int64? : Json → Option Int
  | .num (.int n) => if -(2 ^ 63) ≤ n ∧ n < 2 ^ 63 then some n else none
  | _ => none

/-- The field of an object. -/
def get? (key : String) : Json → Option Json
  | .obj fields => Entries.get? key fields
  | _ => none

/-- The value with a field set; only objects have fields. -/
def set (object : Json) (key : String) (value : Json) : Json :=
  match object with
  | .obj fields => .obj (Entries.set key value fields)
  | other => other

/-- The array index a reference token stands for: digits without a leading zero. -/
def indexOfToken? (token : String) : Option Nat :=
  let digits := token.toList
  if digits.head? = some '0' ∧ digits.length ≠ 1 then none
  else
    match readNat? digits with
    | some n => if n < 2 ^ 64 then some n else none
    | none => none

/-- One step down: a field of an object, or an item of an array by its index. -/
def step? (token : String) : Json → Option Json
  | .obj fields => Entries.get? token fields
  | .arr items => (indexOfToken? token).bind (items[·]?)
  | _ => none

/-- The part of a value that a path of reference tokens leads to. -/
def at? : List String → Json → Option Json
  | [], value => some value
  | token :: path, value => (step? token value).bind (at? path)

/-- Undo the escapes of a reference token: first `~1` is a slash, then `~0` a tilde. -/
def unescapeToken (token : List Char) : List Char :=
  tildes (slashes token)
where
  /-- Every `~1` becomes a slash. -/
  slashes : List Char → List Char
    | '~' :: '1' :: rest => '/' :: slashes rest
    | c :: rest => c :: slashes rest
    | [] => []
  /-- Every `~0` becomes a tilde. -/
  tildes : List Char → List Char
    | '~' :: '0' :: rest => '~' :: tildes rest
    | c :: rest => c :: tildes rest
    | [] => []

/-- The path of reference tokens that a JSON pointer spells: nothing for the whole value, else each
token after a slash. -/
def path? (pointer : String) : Option (List String) :=
  match pointer.toList with
  | [] => some []
  | '/' :: rest =>
      some ((Text.splitOn '/' rest).map fun token => String.ofList (unescapeToken token))
  | _ => none

/-- The part of a value that a JSON pointer addresses. -/
def pointer? (pointer : String) (value : Json) : Option Json :=
  (path? pointer).bind fun path => value.at? path

/-- The text at a path, empty when there is none. -/
def textAt (path : List String) (value : Json) : String :=
  ((value.at? path).bind str?).getD ""

/-- The labels of an object: the entries of `metadata.labels` whose values are texts. -/
def labels (value : Json) : Entries String :=
  match value.at? ["metadata", "labels"] with
  | some (.obj fields) => fields.filterMap fun (k, v) => v.str?.map fun s => (k, s)
  | _ => []

end Json

/-- The name an object carries, or the empty text. -/
def objectName (object : Json) : String := object.textAt ["metadata", "name"]

end VirtualApi

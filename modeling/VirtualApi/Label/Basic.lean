import VirtualApi.Json.Basic
import VirtualApi.Text.Quoted

/-!
# Label requirements and selectors

A selector is a list of requirements on a map of labels, all of which have to hold. A requirement is
built by `Requirement.make`, which checks the key, every value and the number of values, so that
`Requirement.Valid` holds of each. A key that is absent satisfies `!=` and `notin`.
-/

namespace VirtualApi

/-- A map of labels. -/
abbrev Labels := Entries String

namespace Label

open Text

/-- The operator of a requirement. -/
inductive Operator where
  | equals
  | notEquals
  | isIn
  | notIn
  | exists
  | doesNotExist
deriving DecidableEq, Repr

namespace Operator

/-- All operators. -/
def all : List Operator := [.equals, .notEquals, .isIn, .notIn, .exists, .doesNotExist]

/-- The name of each operator. -/
def name : Operator → String
  | .equals => "Equals"
  | .notEquals => "NotEquals"
  | .isIn => "In"
  | .notIn => "NotIn"
  | .exists => "Exists"
  | .doesNotExist => "DoesNotExist"

/-- The operator of a name. -/
def ofName? (text : String) : Option Operator := all.find? fun operator => operator.name = text

end Operator

/-- Why a selector is refused. -/
inductive SelectorError where
  | invalidKey (key : String)
  | invalidValue (value : String)
  | malformed (text : String)
  | unknownOperator (operator : String)
deriving DecidableEq, Repr

/-- The wording of each error. -/
def SelectorError.message : SelectorError → String
  | .invalidKey key => "invalid label key " ++ quoted key
  | .invalidValue value => "invalid label value " ++ quoted value
  | .malformed text => "unable to parse requirement " ++ quoted text
  | .unknownOperator operator => "unknown operator " ++ quoted operator ++ " in label selector"

/-- The name of each cause. -/
def SelectorError.name : SelectorError → String
  | .invalidKey _ => "InvalidKey"
  | .invalidValue _ => "InvalidValue"
  | .malformed _ => "Syntax"
  | .unknownOperator _ => "UnknownOperator"

/-! ## Names -/

/-- A character that may stand inside a name. -/
def isNameChar (c : Char) : Bool := isAlphanumeric c || c = '-' || c = '_' || c = '.'

/-- Name characters, the first and the last of them alphanumeric. -/
def isName (text : List Char) : Bool :=
  match text.head?, text.getLast? with
  | some first, some last => isAlphanumeric first && isAlphanumeric last && text.all isNameChar
  | _, _ => false

/-- A lower-case letter or a digit. -/
def isLabelChar (c : Char) : Bool := isLowerLetter c || isDigit c

/-- One label of a domain: lower-case letters, digits and inner hyphens. -/
def isDomainLabel (text : List Char) : Bool :=
  match text.head?, text.getLast? with
  | some first, some last =>
      isLabelChar first && isLabelChar last && text.all fun c => isLabelChar c || c = '-'
  | _, _ => false

/-- A domain: labels with points between them. -/
def isDomain (text : List Char) : Bool := (splitOn '.' text).all isDomainLabel

/-- A name of at most 63 characters. -/
def validName (text : List Char) : Bool := text.length ≤ 63 && isName text

/-- A label key: a name, after a domain of at most 253 characters and a slash or on its own. -/
def validKey (key : List Char) : Bool :=
  match splitOnce '/' key with
  | some (domain, name) => domain.length ≤ 253 && isDomain domain && validName name
  | none => validName key

/-- A label value: empty or a name of at most 63 characters. -/
def validValue (value : List Char) : Bool := value = [] || validName value

/-! ## Requirements -/

/-- A condition on one label. -/
structure Requirement where
  key : String
  operator : Operator
  values : List String
deriving DecidableEq, Repr

/-- The operator takes this many values. -/
def Operator.takes : Operator → Nat → Bool
  | .equals, n | .notEquals, n => n = 1
  | .isIn, n | .notIn, n => n ≠ 0
  | .exists, n | .doesNotExist, n => n = 0

namespace Requirement

/-- The requirement with this key, operator and values, if they go together. The first fault counts:
the key, then the values in order, then their number. -/
def make (key : String) (operator : Operator) (values : List String) :
    Except SelectorError Requirement :=
  if !validKey key.toList then .error (.invalidKey key)
  else match values.find? fun v => !validValue v.toList with
    | some v => .error (.invalidValue v)
    | none =>
        if operator.takes values.length then .ok ⟨key, operator, values⟩
        else .error (.malformed key)

/-- The key and the values are valid and as many as the operator takes. -/
def Valid (r : Requirement) : Prop :=
  validKey r.key.toList = true ∧ (∀ v ∈ r.values, validValue v.toList = true) ∧
    r.operator.takes r.values.length = true

/-- The labels satisfy the requirement. -/
def holds (r : Requirement) (labels : Labels) : Bool :=
  let value := Entries.get? r.key labels
  match r.operator with
  | .equals | .isIn => value.any (r.values.contains ·)
  | .notEquals | .notIn => value.all fun v => !r.values.contains v
  | .exists => value.isSome
  | .doesNotExist => value.isNone

/-- The values with commas between them. -/
def valueChars (r : Requirement) : List Char := joinWith [','] (r.values.map String.toList)

/-- A requirement in the notation of selectors. -/
def chars (r : Requirement) : List Char :=
  let key := r.key.toList
  match r.operator with
  | .equals => key ++ '=' :: (r.values.headD "").toList
  | .notEquals => key ++ '!' :: '=' :: (r.values.headD "").toList
  | .isIn => key ++ [' ', 'i', 'n', ' ', '('] ++ r.valueChars ++ [')']
  | .notIn => key ++ [' ', 'n', 'o', 't', 'i', 'n', ' ', '('] ++ r.valueChars ++ [')']
  | .exists => key
  | .doesNotExist => '!' :: key

/-- A requirement as text. -/
def text (r : Requirement) : String := String.ofList r.chars

end Requirement

end Label

/-- Requirements that all have to hold; no requirement at all selects everything. -/
structure Selector where
  requirements : List Label.Requirement
deriving DecidableEq, Repr

namespace Selector

/-- The selector of everything. -/
def everything : Selector := ⟨[]⟩

/-- The selector has no requirement. -/
def isEmpty (s : Selector) : Bool := s.requirements.isEmpty

/-- The selector with one more requirement. -/
def push (s : Selector) (r : Label.Requirement) : Selector := ⟨s.requirements ++ [r]⟩

/-- The labels satisfy every requirement. -/
def holds (s : Selector) (labels : Labels) : Bool := s.requirements.all (·.holds labels)

/-- Absent labels count as no labels. -/
def holdsOpt (s : Selector) (labels : Option Labels) : Bool := s.holds (labels.getD [])

/-- The requirements with commas between them. -/
def chars (s : Selector) : List Char :=
  Text.joinWith [','] (s.requirements.map Label.Requirement.chars)

/-- A selector as text. -/
def text (s : Selector) : String := String.ofList s.chars

end Selector

end VirtualApi

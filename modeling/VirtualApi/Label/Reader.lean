import VirtualApi.Label.Basic
import VirtualApi.Text.Blank

/-!
# Reading selectors

A selector text is cut at the commas outside parentheses; each part that is not blank is one
requirement. `Selector.parse` reads the whole, `Label.parseTerm` one part.
-/

namespace VirtualApi

namespace Label

open Text

/-- Cut at the commas at depth zero; `part` is the part under way, in reverse. A closing parenthesis
without an opening one makes the depth negative. -/
def splitTermsFrom (depth : Int) (part : List Char) : List Char → List (List Char)
  | [] => [part.reverse]
  | c :: rest =>
      if c = '(' then splitTermsFrom (depth + 1) (c :: part) rest
      else if c = ')' then splitTermsFrom (depth - 1) (c :: part) rest
      else if c = ',' ∧ depth = 0 then part.reverse :: splitTermsFrom depth [] rest
      else splitTermsFrom depth (c :: part) rest

/-- The parts between the commas that stand outside parentheses. -/
def splitTerms (text : List Char) : List (List Char) := splitTermsFrom 0 [] text

/-- A trimmed part as text. -/
def trimmed (text : List Char) : String := String.ofList (trim text)

/-- Read a part with an opening parenthesis: a key and an operator in front of it, values up to the
closing parenthesis at the end. -/
def parseSetTerm (term head tail : List Char) : Except SelectorError Requirement :=
  if tail.getLast? ≠ some ')' then .error (.malformed (String.ofList term))
  else
    let values := (splitOn ',' tail.dropLast).map trimmed
    match words head with
    | [key, operator] =>
        if operator = ['i', 'n'] then Requirement.make (String.ofList key) .isIn values
        else if operator = ['n', 'o', 't', 'i', 'n'] then
          Requirement.make (String.ofList key) .notIn values
        else .error (.unknownOperator (String.ofList operator))
    | _ => .error (.malformed (String.ofList term))

/-- Read a trimmed part that is not empty as a requirement. -/
def parseTerm (term : List Char) : Except SelectorError Requirement :=
  match term with
  | '!' :: key => Requirement.make (trimmed key) .doesNotExist []
  | _ =>
      match splitOnce '(' term with
      | some (head, tail) => parseSetTerm term head tail
      | none =>
          match splitOnceAt ['!', '='] term with
          | some (key, value) => Requirement.make (trimmed key) .notEquals [trimmed value]
          | none =>
              match splitOnceAt ['=', '='] term with
              | some (key, value) => Requirement.make (trimmed key) .equals [trimmed value]
              | none =>
                  match splitOnce '=' term with
                  | some (key, value) => Requirement.make (trimmed key) .equals [trimmed value]
                  | none =>
                      if term.any isBlank then .error (.malformed (String.ofList term))
                      else Requirement.make (String.ofList term) .exists []

end Label

namespace Selector

open Text Label

/-- Read a text as a selector; the first part that fails decides the error. -/
def parse (text : String) : Except SelectorError Selector := do
  let terms := (splitTerms text.toList).map trim
  let requirements ← (terms.filter (· ≠ [])).mapM parseTerm
  pure ⟨requirements⟩

end Selector

end VirtualApi

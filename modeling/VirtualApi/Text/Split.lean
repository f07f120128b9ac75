/-!
# Cutting and joining text

Text is cut as a list of characters. `splitOnce` cuts at the first occurrence of a separator and
`splitOn` at every one; `joinWith` is the inverse of `splitOn` on parts without the separator.
-/

namespace VirtualApi.Text

/-- The text with this beginning removed, if it begins so. -/
def stripPrefix : List Char → List Char → Option (List Char)
  | [], text => some text
  | _ :: _, [] => none
  | c :: beginning, d :: text => if c = d then stripPrefix beginning text else none

/-- The parts before and after the first occurrence of a character. -/
def splitOnce (separator : Char) : List Char → Option (List Char × List Char)
  | [] => none
  | c :: rest =>
      if c = separator then some ([], rest)
      else (splitOnce separator rest).map fun (before, after) => (c :: before, after)

/-- The parts before and after the first occurrence of a text. -/
def splitOnceAt (separator : List Char) : List Char → Option (List Char × List Char)
  | [] => (stripPrefix separator []).map fun after => ([], after)
  | c :: rest =>
      match stripPrefix separator (c :: rest) with
      | some after => some ([], after)
      | none => (splitOnceAt separator rest).map fun (before, after) => (c :: before, after)

/-- All parts between the occurrences of a character; a text without it is one part. -/
def splitOn (separator : Char) : List Char → List (List Char)
  | [] => [[]]
  | c :: rest =>
      if c = separator then [] :: splitOn separator rest
      else match splitOn separator rest with
        | [] => [[c]]
        | part :: parts => (c :: part) :: parts

/-- The parts one after the other with the separator between them. -/
def joinWith (separator : List Char) : List (List Char) → List Char
  | [] => []
  | [part] => part
  | part :: next :: parts => part ++ separator ++ joinWith separator (next :: parts)

/-- Texts one after the other with the separator between them. -/
def join (separator : String) (parts : List String) : String :=
  String.ofList (joinWith separator.toList (parts.map String.toList))

/-- The lower-case form of the letters `A` to `Z`; every other character stays. -/
def asciiLower (text : String) : String :=
  String.ofList (text.toList.map Char.toLower)

/-- A digit `0` to `9`. -/
def isDigit (c : Char) : Bool := '0' ≤ c && c ≤ '9'

/-- A letter `a` to `z`. -/
def isLowerLetter (c : Char) : Bool := 'a' ≤ c && c ≤ 'z'

/-- A letter `A` to `Z`. -/
def isUpperLetter (c : Char) : Bool := 'A' ≤ c && c ≤ 'Z'

/-- A letter `A` to `Z` or `a` to `z`, or a digit. -/
def isAlphanumeric (c : Char) : Bool := isLowerLetter c || isUpperLetter c || isDigit c

/-- The number a hexadecimal digit stands for. -/
def hexValue? (c : Char) : Option Nat :=
  if isDigit c then some (c.toNat - 48)
  else if 'a' ≤ c ∧ c ≤ 'f' then some (c.toNat - 87)
  else if 'A' ≤ c ∧ c ≤ 'F' then some (c.toNat - 55)
  else none

end VirtualApi.Text

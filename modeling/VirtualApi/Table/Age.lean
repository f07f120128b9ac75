import VirtualApi.Json.Basic
import VirtualApi.Time.Timestamp

/-!
# Ages

The age of an object is the time since it was created, in the two largest units that matter: days
and hours, hours and minutes, minutes, or seconds. A creation time that lies ahead counts as now.
-/

namespace VirtualApi.Age

open Decimal

/-- The units of an age. Every part but the first is below its carry. -/
structure Parts where
  days : Nat
  hours : Nat
  minutes : Nat
  seconds : Nat
deriving DecidableEq, Repr

/-- A number of seconds in days, hours, minutes and seconds. -/
def parts (seconds : Nat) : Parts where
  days := seconds / 86400
  hours := seconds % 86400 / 3600
  minutes := seconds % 3600 / 60
  seconds := seconds % 60

/-- The two largest units of an age that is given in seconds. -/
def ofSeconds (seconds : Nat) : List Char :=
  let p := parts seconds
  if 0 < p.days then digits p.days ++ 'd' :: digits p.hours ++ ['h']
  else if 0 < p.hours then digits p.hours ++ 'h' :: digits p.minutes ++ ['m']
  else if 0 < p.minutes then digits p.minutes ++ ['m']
  else digits p.seconds ++ ['s']

/-- The age of something created at one time and seen at another. -/
def text (created : Option Timestamp) (now : Timestamp) : String :=
  match created with
  | none => "<unknown>"
  | some created => String.ofList (ofSeconds (created.elapsedSeconds now))

/-- The creation time an object carries. -/
def createdAt? (object : Json) : Option Timestamp :=
  ((object.at? ["metadata", "creationTimestamp"]).bind Json.str?).bind Timestamp.parse?

/-- The age of an object. -/
def ofObject (object : Json) (now : Timestamp) : String := text (createdAt? object) now

end VirtualApi.Age

import VirtualApi.Access.Review
import VirtualApi.Chart.Basic
import VirtualApi.FileTree
import VirtualApi.Label.Basic

/-!
# The world of a request

Requests run in a world: a clock in milliseconds, what has happened so far, what is remembered of
the host cluster's kinds and since when, and the chart files with the charts already read.
`World.emit` is the only way to add to what has happened.
-/

namespace VirtualApi

/-- A question to a cluster that is held in memory. -/
inductive ClusterQuestion where
  | resolve (gvk : GroupVersionKind)
  | resolveKind (group kind : String)
  | get (resource : ResourceId) (namespaceName : Option String) (name : String)
  | list (resource : ResourceId) (namespaceName : Option String) (selector : Selector)
  | nodes
  | namespaces (selector : Selector)
  | services (namespaceName : Option String) (selector : Selector)
  | version
deriving DecidableEq, Repr

/-- Something that happened outside while a request was served. -/
inductive Event where
  /-- A request was sent to the host cluster. -/
  | sent (method uri : String) (body : Option Json)
  /-- A cluster held in memory was asked. -/
  | clusterAsked (question : ClusterQuestion)
  /-- The kinds that a cluster serves were asked for. -/
  | discovery
  /-- A scripted answer to the question for the kinds was used up. -/
  | answerUsed
  /-- An access review was submitted. -/
  | reviewed (review : AccessReview)
  /-- An authorizer was asked. -/
  | authorizerAsked (tag : String) (attributes : Attributes)
  /-- A call was cut off, or not made at all, with this error. -/
  | cutOff (error : ApiError)
deriving DecidableEq, Repr

/-- An event as one entry of a log. What happens inside is not logged. -/
def Event.logEntry? : Event → Option Json
  | .sent method uri body =>
      some (.object (("request", .str (method ++ " " ++ uri)) :: Json.field? "body" id body))
  | .reviewed review => some (.object [("review", review.toJson)])
  | .authorizerAsked tag attributes => some (attributes.toJson.set "asked" (.str tag))
  | .clusterAsked _ | .discovery | .answerUsed | .cutOff _ => none

/-- What is remembered of the kinds that the host cluster serves. -/
structure KnownKinds where
  resources : List ResourceId
  /-- The time at which they were listed. -/
  since : Nat := 0
deriving DecidableEq, Repr, Inhabited

/-- Everything that can change while requests are served. -/
structure World where
  /-- The time in milliseconds. -/
  now : Nat := 0
  /-- The clock is the real one. Under a clock that is set by hand nothing remembered grows old. -/
  realTime : Bool := false
  /-- What happened, the first event first. -/
  trace : List Event := []
  /-- The kinds that the host cluster serves, once they are known. -/
  kinds : Option KnownKinds := none
  /-- The files that charts are read from. -/
  files : FileTree := {}
  /-- The charts read so far, by the path of their file. -/
  charts : List (String × EditorChart) := []
deriving DecidableEq, Repr, Inhabited

namespace World

/-- The world after one more event. -/
def emit (w : World) (event : Event) : World := { w with trace := w.trace ++ [event] }

/-- The resources that the host cluster serves, once they are known. -/
def served (w : World) : Option (List ResourceId) := w.kinds.map (·.resources)

/-- The log of what happened since an earlier world. -/
def logSince (w earlier : World) : List Json :=
  (w.trace.drop earlier.trace.length).filterMap Event.logEntry?

/-- The number of times the served kinds were asked for. -/
def discoveries (w : World) : Nat := w.trace.countP (· = .discovery)

/-- The number of scripted answers that are used up. -/
def answersUsed (w : World) : Nat := w.trace.countP (· = .answerUsed)

end World

end VirtualApi

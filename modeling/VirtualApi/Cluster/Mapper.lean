import VirtualApi.Request.Action

/-!
# Finding the resource of a kind

A mapper finds the resource that a host cluster serves for a kind. What is found in the list it
remembers is answered from that list, however old it is. For anything else it asks the cluster for
its kinds, unless the list is fresh, and looks once more. A failure to get the list leaves what is
remembered as it is, so that the next request for such a kind asks again.
-/

namespace VirtualApi

/-- The error for a kind that is not served. -/
def noMatch (gvk : GroupVersionKind) : ApiError :=
  .badRequest ("no matches for kind " ++ Text.quoted gvk.kind ++ " in version " ++
    Text.quoted gvk.apiVersion)

namespace Mapper

/-- The resource of a kind among those served; of several under one text the last counts. -/
def byGvk? (served : List ResourceId) (gvk : GroupVersionKind) : Option ResourceId :=
  served.reverse.find? fun r => r.gvk.key = gvk.key

/-- The resource of a group and kind in the version that is served first. -/
def byKind? (served : List ResourceId) (group kind : String) : Option ResourceId :=
  served.find? fun r => r.group = group && r.kind = kind

/-- The resources known in a world. -/
def known (w : World) : List ResourceId := w.served.getD []

/-- Read something from the resources known. -/
def look {α : Type} (find : List ResourceId → α) : Action α := fun w => (.ok (find (known w)), w)

/-- Keep the list of resources, which is as old as this moment. -/
def store (served : List ResourceId) : Action Unit := fun w =>
  (.ok (), { w with kinds := some { resources := served, since := w.now } })

/-- The milliseconds in which a list is fresh. -/
def freshTime : Nat := 30000

/-- The resources known were listed a short time ago. -/
def isFresh (w : World) : Bool :=
  w.kinds.any fun kinds => !w.realTime || w.now - kinds.since < freshTime

/-- Ask for the resources, unless those known are fresh. -/
def refresh (discover : Call (List ResourceId)) (ctx : RequestContext) : Action Unit := fun w =>
  if isFresh w then (.ok (), w) else (do store (← ctx.run discover) : Action Unit) w

/-- Look something up, and once more after asking for the resources when it is not found. -/
def find (discover : Call (List ResourceId)) (ctx : RequestContext) {α : Type}
    (lookup : List ResourceId → Option α) : Action (Option α) := do
  match ← look lookup with
  | some a => pure (some a)
  | none =>
      refresh discover ctx
      look lookup

/-- The resource of a kind. -/
def resolve (discover : Call (List ResourceId)) (ctx : RequestContext) (gvk : GroupVersionKind) :
    Action ResourceId := do
  match ← find discover ctx (byGvk? · gvk) with
  | some r => pure r
  | none => throw (noMatch gvk)

/-- The resource of a group and kind in its preferred version, if it is served. -/
def resolveKind (discover : Call (List ResourceId)) (ctx : RequestContext) (group kind : String) :
    Action (Option ResourceId) :=
  find discover ctx (byKind? · group kind)

/-- A list of answers to the question for the resources: each is given after some milliseconds, and
in the end an empty list. A question that is cut off uses up no answer. -/
def scripted (rounds : List (ApiResult (List ResourceId))) (latency : Nat) :
    Call (List ResourceId) := fun horizon w =>
  let round := (rounds[w.answersUsed]?).getD (.ok [])
  (do
    Call.emit .discovery
    Call.wait latency
    Call.emit .answerUsed
    Call.answer round : Call (List ResourceId)) horizon w

end Mapper

end VirtualApi

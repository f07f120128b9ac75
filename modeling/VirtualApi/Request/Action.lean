import VirtualApi.Request.World

/-!
# Actions and calls

An action does something in the world and answers, or fails with an error. A call is the part of an
action that waits for someone else: it is made by `RequestContext.run`, which refuses it when the
request is already over and cuts it off at the first wait that lasts to the end of the request.
-/

namespace VirtualApi

/-- Something that is done in the world; it may fail. -/
abbrev Action (α : Type) := ExceptT ApiError (StateM World) α

namespace Action

variable {α : Type}

/-- The outcome of an action, whatever it is. -/
def attempt (action : Action α) : StateM World (ApiResult α) := action

/-- An action that is already decided. -/
def ofResult (result : ApiResult α) : Action α := fun w => (result, w)

/-- Apply a function to the error of an action that fails. -/
def mapError (f : ApiError → ApiError) (action : Action α) : Action α := fun w =>
  match action w with
  | (.ok a, w) => (.ok a, w)
  | (.error e, w) => (.error (f e), w)

end Action

/-- How a call ends without an answer. -/
inductive CallFault where
  /-- The request was over before the call was. -/
  | cut
  | failed (error : ApiError)
deriving DecidableEq, Repr

/-- A call that someone else answers. It knows the time at which it is cut off, if any. -/
abbrev Call (α : Type) := ReaderT (Option Nat) (ExceptT CallFault (StateM World)) α

namespace Call

variable {α : Type}

/-- Note what happened. -/
def emit (event : Event) : Call Unit := fun _ w => (.ok (), w.emit event)

/-- Wait so many milliseconds. A wait that lasts to the time of the cut is cut off there. -/
def wait (duration : Nat) : Call Unit := fun horizon w =>
  match horizon with
  | none => (.ok (), { w with now := w.now + duration })
  | some cut =>
      if cut ≤ w.now + duration then (.error .cut, { w with now := max w.now cut })
      else (.ok (), { w with now := w.now + duration })

/-- Answer, or fail, with what is already known. -/
def answer (result : ApiResult α) : Call α := fun _ w =>
  match result with
  | .ok a => (.ok a, w)
  | .error e => (.error (.failed e), w)

end Call

namespace RequestContext

variable {α : Type}

/-- The error that a call is cut off with at this time. -/
def cutError (ctx : RequestContext) (now : Nat) : ApiError :=
  (ctx.abort? now).getD deadlineExceeded

/-- Make a call for a request. A request that is over makes none, and a call that outlasts the
request is cut off; both fail with the reason the request is over. -/
def run (ctx : RequestContext) (call : Call α) : Action α := fun w =>
  match ctx.abort? w.now with
  | some e => (.error e, w.emit (.cutOff e))
  | none =>
      match call ctx.horizon? w with
      | (.ok a, w) => (.ok a, w)
      | (.error (.failed e), w) => (.error e, w)
      | (.error .cut, w) => (.error (ctx.cutError w.now), w.emit (.cutOff (ctx.cutError w.now)))

end RequestContext

end VirtualApi

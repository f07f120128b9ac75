import VirtualApi.Kind.Registry

/-!
# The server

A server answers get, list, create and watch for registered kinds. A request is refused before
anything behind the kind is asked when the kind, its verb or an option of the request is not
accepted.
-/

namespace VirtualApi

/-- A server of registered kinds. -/
structure Server where
  registry : Registry
  /-- Decides about computations that act for the caller; without one everyone may have them. -/
  authorizer : Option Authorizer := none

namespace Server

/-- The kind that a name stands for. -/
def kind (server : Server) (resource : String) : ApiResult Kind := server.registry.lookup resource

/-- The kind that a name stands for, if it is served with a verb. -/
def kindFor (server : Server) (resource : String) (verb : Verb) : ApiResult Kind := do
  let kind ← server.kind resource
  if kind.supports verb then pure kind else .error (kind.notSupported verb)

/-- The object of a name, as the backend of a kind has it. -/
def find (kind : Kind) (ctx : RequestContext) (name : String) : Action Json :=
  match kind.backend with
  | .catalog source =>
      Action.ofResult (do
        match ← source.get name with
        | some object => pure object
        | none => .error (.notFound kind.gvk.group kind.plural name))
  | .lookup source => source.get ctx name
  | .compute _ => throw (kind.notSupported .get)

/-- Get the object of a name. -/
def get (server : Server) (ctx : RequestContext) (resource name : String) : Action Json := do
  let kind ← Action.ofResult (server.kindFor resource .get)
  pure (kind.gvk.stamp (← find kind ctx name))

/-- The kind to be listed and the selector, if the options are accepted. Watching is refused
first. -/
def acceptList (server : Server) (resource : String) (options : ListOptions) :
    ApiResult (Kind × Selector) := do
  let kind ← server.kind resource
  if options.watch then .error (kind.notSupported .watch)
  else if !kind.supports .list then .error (kind.notSupported .list)
  else if options.hasFieldSelector then .error (.badRequest "fieldSelector is not supported")
  else pure (kind, ← options.selector)

/-- The objects that are asked for, as the backend of a kind has them. -/
def select (kind : Kind) (ctx : RequestContext) (options : ListOptions) (selector : Selector) :
    Action (ListPart Json) :=
  match kind.backend with
  | .catalog source => Action.ofResult (source.list options selector)
  | .lookup source => do
      pure { items := (← source.list ctx).filter fun object => selector.holds object.labels }
  | .compute _ => throw (kind.notSupported .list)

/-- A part of a list as a list of a kind. -/
def listOf (kind : Kind) (part : ListPart Json) : ObjectList :=
  { kind.emptyList with
    metadata := { continueToken := part.continueToken }
    items := part.items.map kind.gvk.stamp }

/-- List objects. -/
def list (server : Server) (ctx : RequestContext) (resource : String) (options : ListOptions) :
    Action ObjectList := do
  let (kind, selector) ← Action.ofResult (server.acceptList resource options)
  pure (listOf kind (← select kind ctx options selector))

/-- List objects and follow the continue tokens, at most so often. The pages and the error that
ended them, if one did. -/
def listAll (server : Server) (ctx : RequestContext) (resource : String) :
    Nat → ListOptions → StateM World (List ObjectList × Option ApiError)
  | 0, _ => pure ([], none)
  | more + 1, options => do
      match ← (server.list ctx resource options).attempt with
      | .error e => pure ([], some e)
      | .ok page =>
          match page.metadata.continueToken with
          | none => pure ([page], none)
          | some token => do
              let (pages, error) ← listAll server ctx resource more (options.withContinue token)
              pure (page :: pages, error)

/-- The kind and the computation behind it, if the options are accepted. -/
def acceptCreate (server : Server) (resource : String) (options : CreateOptions) :
    ApiResult (Kind × Creator) := do
  let kind ← server.kind resource
  match kind.backend with
  | .compute creator =>
      if !kind.supports .create then .error (kind.notSupported .create)
      else
        match options.dryRun.find? (· ≠ "All") with
        | some other => .error (.badRequest ("invalid dry run option " ++ Text.quoted other))
        | none => pure (kind, creator)
  | _ => .error (kind.notSupported .create)

/-- Send an object. -/
def create (server : Server) (ctx : RequestContext) (resource : String) (body : Json)
    (options : CreateOptions) : Action Json := do
  let (kind, creator) ← Action.ofResult (server.acceptCreate resource options)
  creator kind.gvk server.authorizer ctx body

/-- Watch objects; nothing can be watched. -/
def watch (server : Server) (resource : String) : Action Unit := do
  let kind ← Action.ofResult (server.kind resource)
  throw (kind.notSupported .watch)

/-- Show an object or a list as a table. -/
def table (server : Server) (resource : String) (value : Json) (options : TableOptions)
    (now : Timestamp) : ApiResult Table := do
  pure ((← server.kind resource).table.convert value options now)

end Server

end VirtualApi

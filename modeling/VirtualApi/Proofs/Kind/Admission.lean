import VirtualApi.Kind.Standard
import VirtualApi.Proofs.Request.Action
import VirtualApi.Server

/-!
# What is refused before anything is asked

An operation is refused for its kind, its verb or its options, and an object that is sent also for
what it says itself. `Server.Admits` says what it takes to be let through, and `Server.Refusal`
lists the reasons for which an operation is not. The main theorem, `refused_without_effect`, says
that the two exclude each other and leave nothing out, that what is let through is answered by the
backend, and that what is refused leaves the world as it is, whatever the backends and the
authorizer are.
-/

namespace VirtualApi

/-- Something that is asked of a resource. -/
inductive Operation where
  | get (name : String)
  | list (options : ListOptions)
  | create (body : Json) (options : CreateOptions)
  | watch (options : ListOptions)

/-- What an operation is answered with. -/
inductive Answer where
  | object (value : Json)
  | objects (list : ObjectList)
  | nothing

namespace Operation

/-- The verb that a kind has to be served with. -/
def verb : Operation → Verb
  | .get _ => .get
  | .list _ => .list
  | .create _ _ => .create
  | .watch _ => .watch

/-- Nothing is watched: neither by the operation nor by an option of it. -/
def Watches : Operation → Prop
  | .get _ | .create _ _ => False
  | .list options => options.watch = true
  | .watch _ => True

/-- The options are accepted: there is no field selector, the label selector can be read, and a dry
run is one of everything. -/
def Acceptable : Operation → Prop
  | .list options =>
      options.hasFieldSelector = false ∧ ∃ selector, options.selector = .ok selector
  | .create _ options => ∀ stage ∈ options.dryRun, stage = "All"
  | .get _ | .watch _ => True

end Operation

namespace Kind

/-- The kind with something else behind it. -/
def withBackend (backend : Kind → Backend) (kind : Kind) : Kind :=
  { kind with backend := backend kind }

/-- What is behind the checks: the backend of a kind answers. -/
def serve (kind : Kind) (authorizer : Option Authorizer) (ctx : RequestContext) :
    Operation → Action Answer
  | .get name => do pure (.object (kind.gvk.stamp (← Server.find kind ctx name)))
  | .list options => do
      let selector ← Action.ofResult options.selector
      pure (.objects (Server.listOf kind (← Server.select kind ctx options selector)))
  | .create body _ =>
      match kind.backend with
      | .compute creator => do pure (.object (← creator kind.gvk authorizer ctx body))
      | _ => throw (kind.notSupported .create)
  | .watch _ => throw (kind.notSupported .watch)

/-- The first reason for which an operation on a kind is refused, if there is one. -/
def refusal? (kind : Kind) : Operation → Option ApiError
  | .get _ =>
      if !kind.supports .get || .get ∉ kind.backend.verbs then some (kind.notSupported .get)
      else none
  | .list options =>
      if options.watch then some (kind.notSupported .watch)
      else if !kind.supports .list then some (kind.notSupported .list)
      else if options.hasFieldSelector then some (.badRequest "fieldSelector is not supported")
      else
        match options.selector with
        | .error e => some e
        | .ok _ => if .list ∈ kind.backend.verbs then none else some (kind.notSupported .list)
  | .create _ options =>
      if .create ∉ kind.backend.verbs || !kind.supports .create then
        some (kind.notSupported .create)
      else
        (options.dryRun.find? (· ≠ "All")).map fun other =>
          .badRequest ("invalid dry run option " ++ Text.quoted other)
  | .watch _ => some (kind.notSupported .watch)

end Kind

namespace Registry

/-- The registry with something else behind each kind. -/
def withBackends (backend : Kind → Backend) (registry : Registry) : Registry where
  kinds := registry.kinds.map (Kind.withBackend backend)
  names := registry.names.map fun entry => (entry.1, entry.2.withBackend backend)

end Registry

namespace Server

/-- The answer to an operation. -/
def perform (server : Server) (ctx : RequestContext) (resource : String) :
    Operation → Action Answer
  | .get name => do pure (.object (← server.get ctx resource name))
  | .list options => do pure (.objects (← server.list ctx resource options))
  | .create body options => do pure (.object (← server.create ctx resource body options))
  | .watch _ => do
      server.watch resource
      pure .nothing

/-- What it takes for an operation to be let through to the backend of a kind. -/
structure Admits (server : Server) (resource : String) (operation : Operation) (kind : Kind) :
    Prop where
  found : server.kind resource = .ok kind
  served : kind.supports operation.verb = true
  implemented : operation.verb ∈ kind.backend.verbs
  unwatched : ¬ operation.Watches
  accepted : operation.Acceptable

/-- The reasons for which an operation is refused, each with its error. -/
inductive Refusal (server : Server) (resource : String) : Operation → ApiError → Prop where
  | unknown {operation : Operation} {e : ApiError} (h : server.kind resource = .error e) :
      Refusal server resource operation e
  | unserved {operation : Operation} {kind : Kind} (hkind : server.kind resource = .ok kind)
      (h : kind.supports operation.verb = false) :
      Refusal server resource operation (kind.notSupported operation.verb)
  | unimplemented {operation : Operation} {kind : Kind} (hkind : server.kind resource = .ok kind)
      (h : operation.verb ∉ kind.backend.verbs) :
      Refusal server resource operation (kind.notSupported operation.verb)
  | watching {operation : Operation} {kind : Kind} (hkind : server.kind resource = .ok kind)
      (h : operation.Watches) : Refusal server resource operation (kind.notSupported .watch)
  | fieldSelector {options : ListOptions} (h : options.hasFieldSelector = true) :
      Refusal server resource (.list options) (.badRequest "fieldSelector is not supported")
  | labelSelector {options : ListOptions} {e : ApiError} (h : options.selector = .error e) :
      Refusal server resource (.list options) e
  | dryRun {body : Json} {options : CreateOptions} {stage : String}
      (hstage : stage ∈ options.dryRun) (h : stage ≠ "All") :
      Refusal server resource (.create body options)
        (.badRequest ("invalid dry run option " ++ Text.quoted stage))

/-- An operation fails with an error before anything is done: in every context and in every world,
which stays as it is, and whatever the authorizer is and whatever is behind the kinds, as long as
this has the same verbs. -/
def RefusesUnasked (server : Server) (resource : String) (operation : Operation) (e : ApiError) :
    Prop :=
  ∀ (backend : Kind → Backend) (authorizer : Option Authorizer),
    (∀ kind, (backend kind).verbs = kind.backend.verbs) →
    ∀ (ctx : RequestContext) (w : World),
      perform ⟨server.registry.withBackends backend, authorizer⟩ ctx resource operation w =
        (.error e, w)

variable {server : Server} {ctx : RequestContext} {resource : String} {operation : Operation}
  {kind : Kind} {e : ApiError}

/-! ## The checks of each operation -/

/-- Without a kind every operation is refused. -/
theorem perform_of_unknown (h : server.kind resource = .error e) (operation : Operation) :
    server.perform ctx resource operation = throw e := by
  cases operation with
  | get name =>
      have hget : server.kindFor resource .get = .error e := by rw [kindFor, h]; rfl
      simp [perform, get, hget, Action.of_result_error_bind]
  | list options =>
      have hlist : server.acceptList resource options = .error e := by rw [acceptList, h]; rfl
      simp [perform, list, hlist, Action.of_result_error_bind]
  | create body options =>
      have hcreate : server.acceptCreate resource options = .error e := by
        rw [acceptCreate, h]; rfl
      simp [perform, create, hcreate, Action.of_result_error_bind]
  | watch options => simp [perform, watch, h, Action.of_result_error_bind]

/-- The checks on a list of a kind that is found. -/
theorem accept_list_of_kind (h : server.kind resource = .ok kind) (options : ListOptions) :
    server.acceptList resource options =
      if options.watch then .error (kind.notSupported .watch)
      else if !kind.supports .list then .error (kind.notSupported .list)
      else if options.hasFieldSelector then .error (.badRequest "fieldSelector is not supported")
      else options.selector.map (kind, ·) := by
  rw [acceptList, h]
  cases options.selector <;> rfl

/-- The checks on an object that is sent to a kind that is found. -/
theorem accept_create_of_kind (h : server.kind resource = .ok kind) (options : CreateOptions) :
    server.acceptCreate resource options =
      match kind.backend with
      | .compute creator =>
          if !kind.supports .create then .error (kind.notSupported .create)
          else
            match options.dryRun.find? (· ≠ "All") with
            | some other => .error (.badRequest ("invalid dry run option " ++ Text.quoted other))
            | none => .ok (kind, creator)
      | _ => .error (kind.notSupported .create) := by
  rw [acceptCreate, h]
  rfl

/-- Of a kind that is found, an operation is refused for the first reason there is, and answered by
the backend where there is none. -/
theorem perform_of_kind (h : server.kind resource = .ok kind) (operation : Operation) :
    server.perform ctx resource operation =
      match kind.refusal? operation with
      | some e => throw e
      | none => kind.serve server.authorizer ctx operation := by
  cases operation with
  | get name =>
      have hget : server.kindFor resource .get =
          if kind.supports .get then .ok kind else .error (kind.notSupported .get) := by
        rw [kindFor, h]; rfl
      simp only [perform, get, hget, Kind.refusal?, Kind.serve]
      cases hserved : kind.supports .get with
      | false => simp [Action.of_result_error_bind]
      | true =>
          cases hbackend : kind.backend <;>
            simp [Action.of_result_ok_bind, find, hbackend, Backend.verbs]
  | list options =>
      simp only [perform, list, accept_list_of_kind h, Kind.refusal?, Kind.serve]
      cases hwatch : options.watch with
      | true => simp [Action.of_result_error_bind]
      | false =>
          cases hserved : kind.supports .list with
          | false => simp [Action.of_result_error_bind]
          | true =>
              cases hfield : options.hasFieldSelector with
              | true => simp [Action.of_result_error_bind]
              | false =>
                  cases hselector : options.selector with
                  | error e => simp [Except.map, Action.of_result_error_bind]
                  | ok selector =>
                      cases hbackend : kind.backend <;>
                        simp [Except.map, Action.of_result_ok_bind, select, hbackend, Backend.verbs]
  | create body options =>
      simp only [perform, create, accept_create_of_kind h, Kind.refusal?, Kind.serve]
      cases hbackend : kind.backend with
      | compute creator =>
          cases hserved : kind.supports .create with
          | false => simp [Action.of_result_error_bind]
          | true =>
              cases options.dryRun.find? (· ≠ "All") with
              | none => simp [Action.of_result_ok_bind, Backend.verbs]
              | some other => simp [Action.of_result_error_bind, Backend.verbs]
      | catalog source => simp [Backend.verbs, Action.of_result_error_bind]
      | lookup source => simp [Backend.verbs, Action.of_result_error_bind]
  | watch options => simp [perform, watch, h, Kind.refusal?, Action.of_result_ok_bind]

end Server

namespace Kind

variable {kind : Kind} {operation : Operation}

/-- There is no reason to refuse an operation exactly when it passes every check. -/
theorem refusal_eq_none_iff :
    kind.refusal? operation = none ↔ kind.supports operation.verb = true ∧
      operation.verb ∈ kind.backend.verbs ∧ ¬ operation.Watches ∧ operation.Acceptable := by
  cases operation with
  | get name => simp [refusal?, Operation.verb, Operation.Watches, Operation.Acceptable]
  | list options =>
      simp only [refusal?, Operation.verb, Operation.Watches, Operation.Acceptable]
      cases options.watch <;> cases kind.supports .list <;> cases options.hasFieldSelector <;>
        cases options.selector <;> simp
  | create body options =>
      simp only [refusal?, Operation.verb, Operation.Watches, Operation.Acceptable]
      cases kind.supports .create <;> by_cases hverbs : .create ∈ kind.backend.verbs <;>
        simp [hverbs]
  | watch options => simp [refusal?, Operation.Watches]

/-- What is behind a kind matters to the checks only by its verbs. -/
theorem refusal_with_backend {backend : Kind → Backend}
    (h : (backend kind).verbs = kind.backend.verbs) (operation : Operation) :
    (kind.withBackend backend).refusal? operation = kind.refusal? operation := by
  have hverbs : (kind.withBackend backend).backend.verbs = kind.backend.verbs := h
  unfold refusal?
  rw [hverbs]
  rfl

end Kind

namespace Server

variable {server : Server} {ctx : RequestContext} {resource : String} {operation : Operation}
  {kind : Kind} {e : ApiError}

/-- The checks let exactly what is admitted through. -/
theorem admits_iff (hkind : server.kind resource = .ok kind) :
    server.Admits resource operation kind ↔ kind.refusal? operation = none := by
  rw [Kind.refusal_eq_none_iff]
  constructor
  · intro h
    exact ⟨h.served, h.implemented, h.unwatched, h.accepted⟩
  · rintro ⟨hserved, himplemented, hunwatched, haccepted⟩
    exact ⟨hkind, hserved, himplemented, hunwatched, haccepted⟩

/-- The first reason of a refusal is one of the reasons. -/
theorem refusal_of_kind (hkind : server.kind resource = .ok kind)
    (h : kind.refusal? operation = some e) : server.Refusal resource operation e := by
  cases operation with
  | get name =>
      simp only [Kind.refusal?] at h
      split at h
      · next hrefused =>
          cases h
          rcases Bool.or_eq_true_iff.mp hrefused with hserved | himplemented
          · exact .unserved hkind (by simpa [Operation.verb] using hserved)
          · exact .unimplemented hkind (by simpa [Operation.verb] using himplemented)
      · cases h
  | list options =>
      simp only [Kind.refusal?] at h
      split at h
      · next hwatch =>
          cases h
          exact .watching hkind hwatch
      split at h
      · next hserved =>
          cases h
          exact .unserved hkind (by simpa [Operation.verb] using hserved)
      split at h
      · next hfield =>
          cases h
          exact .fieldSelector hfield
      split at h
      · next hselector =>
          cases h
          exact .labelSelector hselector
      · split at h
        · cases h
        · next himplemented =>
            cases h
            exact .unimplemented hkind himplemented
  | create body options =>
      simp only [Kind.refusal?] at h
      split at h
      · next hrefused =>
          cases h
          rcases Bool.or_eq_true_iff.mp hrefused with himplemented | hserved
          · exact .unimplemented hkind (by simpa [Operation.verb] using himplemented)
          · exact .unserved hkind (by simpa [Operation.verb] using hserved)
      · obtain ⟨stage, hstage, rfl⟩ := Option.map_eq_some_iff.mp h
        exact .dryRun (List.mem_of_find?_eq_some hstage) (by simpa using List.find?_some hstage)
  | watch options =>
      cases h
      exact .watching hkind trivial

/-- What is refused for a reason is not let through. -/
theorem Refusal.not_admits (h : server.Refusal resource operation e) :
    ¬ server.Admits resource operation kind := by
  intro hadmits
  have hsame {found : Kind} (hfound : server.kind resource = .ok found) : found = kind :=
    Except.ok.inj (hfound.symm.trans hadmits.found)
  cases h with
  | unknown h =>
      rw [hadmits.found] at h
      cases h
  | unserved hkind h =>
      cases hsame hkind
      rw [hadmits.served] at h
      cases h
  | unimplemented hkind h =>
      cases hsame hkind
      exact h hadmits.implemented
  | watching _ h => exact hadmits.unwatched h
  | fieldSelector h =>
      rw [hadmits.accepted.1] at h
      cases h
  | labelSelector h =>
      obtain ⟨selector, hselector⟩ := hadmits.accepted.2
      rw [hselector] at h
      cases h
  | dryRun hstage h => exact h (hadmits.accepted _ hstage)

end Server

/-! ## What is behind the kinds -/

namespace Registry

/-- With what is behind its own kinds a registry stays what it is. -/
theorem with_own_backends (registry : Registry) :
    registry.withBackends Kind.backend = registry := by
  show Registry.mk (registry.kinds.map id) (registry.names.map id) = registry
  rw [List.map_id, List.map_id]

/-- A name stands for the same kind, whatever is behind it. -/
theorem lookup_with_backends (registry : Registry) (backend : Kind → Backend)
    (name : String) :
    (registry.withBackends backend).lookup name =
      (registry.lookup name).map (Kind.withBackend backend) := by
  have hnames (key : String) (names : List (String × Kind)) :
      (names.map fun entry => (entry.1, entry.2.withBackend backend)).lookup key =
        (names.lookup key).map (Kind.withBackend backend) := by
    induction names with
    | nil => rfl
    | cons entry rest ih =>
        rw [List.map_cons, List.lookup_cons, List.lookup_cons]
        cases key == entry.1 <;> [exact ih; rfl]
  unfold lookup withBackends
  rw [hnames]
  cases registry.names.lookup (Text.asciiLower name) <;> rfl

end Registry

namespace Server

variable {server : Server} {ctx : RequestContext} {resource : String} {operation : Operation}
  {kind : Kind} {e : ApiError}

/-- A name stands for the same kind on a server with something else behind the kinds. -/
theorem kind_with_backends (server : Server) (backend : Kind → Backend)
    (authorizer : Option Authorizer) (resource : String) :
    Server.kind ⟨server.registry.withBackends backend, authorizer⟩ resource =
      (server.kind resource).map (Kind.withBackend backend) :=
  server.registry.lookup_with_backends backend resource

/-- What is not let through is refused for one of the reasons, before anything is done. -/
theorem refuses_unasked (h : ∀ kind, ¬ server.Admits resource operation kind) :
    ∃ e, server.Refusal resource operation e ∧ server.RefusesUnasked resource operation e := by
  cases hkind : server.kind resource with
  | error e =>
      refine ⟨e, .unknown hkind, fun backend authorizer _ ctx w => ?_⟩
      have hunknown : Server.kind ⟨server.registry.withBackends backend, authorizer⟩ resource =
          .error e := by
        rw [kind_with_backends, hkind]
        rfl
      rw [perform_of_unknown hunknown]
      rfl
  | ok kind =>
      obtain ⟨e, he⟩ := Option.ne_none_iff_exists'.mp ((admits_iff hkind).not.mp (h kind))
      refine ⟨e, refusal_of_kind hkind he, fun backend authorizer hverbs ctx w => ?_⟩
      have hfound : Server.kind ⟨server.registry.withBackends backend, authorizer⟩ resource =
          .ok (kind.withBackend backend) := by
        rw [kind_with_backends, hkind]
        rfl
      rw [perform_of_kind hfound, Kind.refusal_with_backend (hverbs kind), he]
      rfl

end Server

/-! ## What is sent -/

namespace Kind

/-- The reasons for which a computation, or the site, refuses what is sent to its kind, each with
its error: it is no object or names another kind, it cannot be read, or it carries no request. -/
inductive RefusesBody (kind : Kind) (body : Json) : ApiError → Prop where
  | typeMeta {Request Response : Type} (c : Computation Request Response) {e : ApiError}
      (hbackend : kind.backend = .compute c.create) (h : kind.gvk.checkSent body = .error e) :
      RefusesBody kind body e
  | undecodable {Request Response : Type} (c : Computation Request Response)
      (hbackend : kind.backend = .compute c.create) (hsent : kind.gvk.checkSent body = .ok ())
      (h : Envelope.ofJson? c.readRequest c.readResponse body = none) :
      RefusesBody kind body (.badRequest ("decode " ++ kind.gvk.kind ++ ": "))
  | requestMissing {Request Response : Type} (c : Computation Request Response)
      (hbackend : kind.backend = .compute c.create) (hsent : kind.gvk.checkSent body = .ok ())
      {envelope : Envelope Request Response}
      (h : Envelope.ofJson? c.readRequest c.readResponse body = some envelope)
      (hrequest : envelope.request = none) :
      RefusesBody kind body (.badRequest "missing apirequest")
  | siteTypeMeta (cluster : Cluster) (site : SiteInfo) {e : ApiError}
      (hbackend : kind.backend = (siteInfo cluster site).backend)
      (h : kind.gvk.checkSent body = .error e) : RefusesBody kind body e

variable {kind : Kind} {body : Json} {e : ApiError}

/-- A computation whose body cannot be read does nothing. -/
theorem serve_of_unread {Request Response : Type} {c : Computation Request Response}
    (hbackend : kind.backend = .compute c.create) (h : c.readBody kind.gvk body = .error e)
    (authorizer : Option Authorizer) (ctx : RequestContext) (options : CreateOptions) :
    kind.serve authorizer ctx (.create body options) = throw e := by
  simp only [serve, hbackend, Computation.create, h, Action.of_result_error_bind]
  rfl

/-- What is sent and refused is refused before anything is done. -/
theorem RefusesBody.serve_eq (h : kind.RefusesBody body e) (authorizer : Option Authorizer)
    (ctx : RequestContext) (options : CreateOptions) :
    kind.serve authorizer ctx (.create body options) = throw e := by
  cases h with
  | typeMeta c hbackend h =>
      refine serve_of_unread hbackend ?_ authorizer ctx options
      rw [Computation.readBody, h]
      rfl
  | undecodable c hbackend hsent h =>
      refine serve_of_unread hbackend ?_ authorizer ctx options
      rw [Computation.readBody, hsent, h]
      rfl
  | requestMissing c hbackend hsent h hrequest =>
      refine serve_of_unread hbackend ?_ authorizer ctx options
      rw [Computation.readBody, hsent, h]
      simp only [hrequest]
      rfl
  | siteTypeMeta cluster site hbackend h =>
      simp only [serve, hbackend, siteInfo, h, Action.of_result_error_bind]
      rfl

end Kind

namespace Server

/-- Refused requests have no effects. Whatever the kinds of a server are, with whatever verbs, an
operation that is admitted is answered by the backend of its kind. One that is not fails with the
error of one of the reasons, in every context, and leaves the world as it is, whatever is behind the
kinds and whatever the authorizer is; no reason leaves an operation admitted. Where what is sent is
refused for what it says itself, the error leaves the world as it is as well, whatever the
authorizer is. -/
theorem refused_without_effect (server : Server) (resource : String) (operation : Operation) :
    (∀ kind, server.Admits resource operation kind → ∀ ctx,
      server.perform ctx resource operation = kind.serve server.authorizer ctx operation) ∧
    ((∀ kind, ¬ server.Admits resource operation kind) →
      ∃ e, server.Refusal resource operation e ∧ server.RefusesUnasked resource operation e ∧
        ∀ ctx w, server.perform ctx resource operation w = (.error e, w)) ∧
    (∀ e, server.Refusal resource operation e →
      ∀ kind, ¬ server.Admits resource operation kind) ∧
    ∀ kind body options e, operation = .create body options →
      server.Admits resource operation kind → kind.RefusesBody body e →
      ∀ authorizer ctx w,
        perform ⟨server.registry, authorizer⟩ ctx resource operation w = (.error e, w) := by
  refine ⟨fun kind h ctx => ?_, fun h => ?_, fun e h kind => h.not_admits, ?_⟩
  · rw [perform_of_kind h.found, (admits_iff h.found).mp h]
  · obtain ⟨e, hrefusal, hunasked⟩ := refuses_unasked h
    refine ⟨e, hrefusal, hunasked, fun ctx w => ?_⟩
    have hown := hunasked Kind.backend server.authorizer (fun _ => rfl) ctx w
    rwa [Registry.with_own_backends] at hown
  · rintro kind body options e rfl h hbody authorizer ctx w
    have hfound : Server.kind ⟨server.registry, authorizer⟩ resource = .ok kind := h.found
    rw [perform_of_kind hfound, (admits_iff h.found).mp h, hbody.serve_eq]
    rfl

/-- A server of sections, which are nothing but computed. -/
def sections : Server where
  registry := { kinds := [Kind.renderSection], names := [("rendersections", Kind.renderSection)] }

/-- A section that is sent as a text, and a request for all sections, are refused. -/
theorem sections_refused :
    (∀ ctx w, sections.perform ctx "rendersections" (.create (.str "title") {}) w =
      (.error (.badRequest "expected a RenderSection object"), w)) ∧
    ∃ e, ∀ ctx w, sections.perform ctx "rendersections" (.list {}) w = (.error e, w) := by
  have hkind : sections.kind "rendersections" = .ok Kind.renderSection := rfl
  constructor
  · intro ctx w
    have hadmits : sections.Admits "rendersections" (.create (.str "title") {})
        Kind.renderSection := (admits_iff hkind).mpr rfl
    have hbody : Kind.renderSection.RefusesBody (.str "title")
        (.badRequest "expected a RenderSection object") :=
      .typeMeta Kind.echo rfl rfl
    exact (refused_without_effect sections "rendersections" _).2.2.2 _ _ _ _ rfl hadmits hbody
      none ctx w
  · have hrefused (kind : Kind) : ¬ sections.Admits "rendersections" (.list {}) kind := by
      have hunserved : sections.Refusal "rendersections" (.list {})
          (Kind.renderSection.notSupported .list) := .unserved hkind rfl
      exact hunserved.not_admits
    obtain ⟨e, -, -, h⟩ :=
      (refused_without_effect sections "rendersections" (.list {})).2.1 hrefused
    exact ⟨e, h⟩

end Server

end VirtualApi

import VirtualApi.Kind.Standard
import VirtualApi.Proofs.Access.Tiers
import VirtualApi.Proofs.Chart.Cutoff
import VirtualApi.Proofs.Kind.Registry
import VirtualApi.Server

/-!
# No cut is swallowed

A call that is cut off ends the request it is made for. This goes through everything that stands
between a call and the client: the authorizers and the gate, the computations, what is looked up,
and the server. `standard_kinds_stop_at_cut` says it for every request to the standard kinds.
-/

namespace VirtualApi

/-! ## The gate -/

/-- Submitting a review is quiet. -/
theorem Reviewer.submit_quiet (reviewer : Reviewer) (review : AccessReview) :
    (reviewer.submit review).Quiet := by
  rw [submit_eq]
  exact .bind (.emit (reviewer.submission_ne_cut_off review)) fun _ =>
    .bind (.wait _) fun _ => .pure _

namespace Authorizer

variable {ctx : RequestContext} {a : Attributes}

/-- An authorizer whose review is cut off asks no one else, and its verdict carries the error of the
cut. -/
theorem authorize_ends_at_cut (authorizer : Authorizer) (w : World) :
    Ending (fun e verdict => verdict = .failed (.aborted e)) w
      (authorizer.authorize ctx a w) := by
  induction authorizer generalizing w with
  | policy p => exact .of_trace_eq rfl
  | custom tag latency verdict =>
      exact .whole [.authorizerAsked tag a] rfl (.singleton fun _ h => by cases h)
  | remote reviewer =>
      refine (ctx.run_ends_at_cut
        (reviewer.submit_quiet (.ofAttributes a)) w).imp rfl fun e _ herror => ?_
      exact congrArg verdictOfReview herror
  | tiered first second ihfirst ihsecond =>
      rw [authorize_tiered]
      split
      · next hsilent =>
          cases ihfirst w with
          | whole events htrace huncut => exact .after htrace huncut (ihsecond _)
          | cut before e htrace hbefore hcut hverdict =>
              -- The verdict on a review that was cut off carries an error.
              rw [hverdict] at hsilent
              cases hsilent.2
      · exact ihfirst w

end Authorizer

namespace Gate

/-- The gate reports the error of a review that is cut off. -/
theorem check_access_ends_at_cut (authorizer : Authorizer) (ctx : RequestContext)
    (t : AccessTarget) : (checkAccess authorizer ctx t).EndsAtCut := by
  intro w
  refine (authorizer.authorize_ends_at_cut w).imp rfl fun e _ hverdict => ?_
  show pass ctx.user.name t _ = _
  rw [hverdict]
  rfl

end Gate

/-! ## Computations -/

namespace Calculation

variable {cluster : Cluster} {ctx : RequestContext}

/-- An error of a cut stays what it is. -/
theorem resolve_error_of_cut {e : ApiError} (h : IsCut e) : resolveError e = e := by
  rcases h with rfl | rfl <;> rfl

/-- Resolving a manifest ends when it is cut off. -/
theorem resolve_ends_at_cut (manifest : Json) : (resolve cluster ctx manifest).EndsAtCut := by
  unfold resolve
  split
  · exact .throw _
  · split
    · exact .throw _
    · exact .map_error (cluster.resolve_ends_at_cut ctx _) fun _ hcut => resolve_error_of_cut hcut

/-- Finding out what a caller must be allowed to do ends when it is cut off. -/
theorem access_target_ends_at_cut (manifest : Json) :
    (accessTarget cluster ctx manifest).EndsAtCut :=
  .bind (resolve_ends_at_cut manifest) fun _ => .pure _

/-- Calculating ends when the manifest's kind is not found out in time. -/
theorem compute_ends_at_cut (metrics : MetricsRegistry) (manifest : Json) :
    (compute cluster metrics ctx manifest).EndsAtCut :=
  .bind (resolve_ends_at_cut manifest) fun _ => .of_result _

end Calculation

/-- Rendering objects ends when one of the two questions is cut off. -/
theorem render_objects_ends_at_cut {cluster : Cluster} {ctx : RequestContext}
    (request : RenderingRequest) : (renderObjects cluster ctx request).EndsAtCut := by
  refine .bind (cluster.resolve_ends_at_cut ctx _) fun resource => ?_
  dsimp only
  split
  · exact cluster.get_object_ends_at_cut ctx _ _ _
  · split
    · exact .throw _
    · exact .bind (cluster.list_objects_ends_at_cut ctx _ _ _) fun _ => .pure _

namespace Computation

variable {Request Response : Type} {c : Computation Request Response}

/-- An answer ends when the question what the caller may do, the gate or the computation is cut
off. -/
theorem create_ends_at_cut (htarget : ∀ ctx request, (c.accessTarget ctx request).EndsAtCut)
    (hcompute : ∀ ctx request, (c.compute ctx request).EndsAtCut) (gvk : GroupVersionKind)
    (authorizer : Option Authorizer) (ctx : RequestContext) (body : Json) :
    (c.create gvk authorizer ctx body).EndsAtCut := by
  refine .bind (.of_result _) fun request => .bind (htarget ctx request) fun target => ?_
  have hpass : (letPass ctx target authorizer).EndsAtCut := by
    unfold letPass
    split
    · exact Gate.check_access_ends_at_cut _ ctx _
    · exact .pure _
  exact .bind hpass fun _ => .bind (hcompute ctx request) fun _ => .pure _

end Computation

/-! ## Kinds -/

/-- Everything that a backend answers ends at the first cut. -/
def Backend.EndsAtCut : Backend → Prop
  | .catalog _ => True
  | .compute creator => ∀ gvk authorizer ctx body, (creator gvk authorizer ctx body).EndsAtCut
  | .lookup source =>
      (∀ ctx name, (source.get ctx name).EndsAtCut) ∧ ∀ ctx, (source.list ctx).EndsAtCut

/-- Every standard kind ends what it answers at the first cut. -/
theorem Kind.standard_ends_at_cut (s : Surroundings) :
    ∀ kind ∈ Kind.standard s, kind.backend.EndsAtCut := by
  intro kind hkind
  simp only [standard, List.mem_cons, List.not_mem_nil, or_false] at hkind
  rcases hkind with rfl | rfl | rfl | rfl | rfl | rfl | rfl | rfl | rfl | rfl | rfl
  -- The catalogs ask no one.
  · trivial
  · trivial
  · trivial
  · exact Computation.create_ends_at_cut
      (fun _ manifest => .bind (Calculation.access_target_ends_at_cut manifest) fun _ => .pure _)
      fun _ manifest => Calculation.compute_ends_at_cut _ manifest
  · exact Computation.create_ends_at_cut (fun _ _ => .pure _)
      fun _ request => render_objects_ends_at_cut request
  · exact Computation.create_ends_at_cut (fun _ _ => .pure _)
      fun _ request => load_manifests_ends_at_cut _ request
  · exact Computation.create_ends_at_cut (fun _ _ => .pure _)
      fun _ query => Preset.load_ends_at_cut query
  · exact Computation.create_ends_at_cut (fun _ _ => .pure _) fun _ _ => .pure _
  · exact ⟨fun ctx name => .bind (GatewayInfo.get_ends_at_cut s.cluster ctx name) fun _ => .pure _,
      fun _ => .pure _⟩
  · exact ⟨fun ctx id => .bind (Project.get_ends_at_cut s.cluster ctx id) fun _ => .pure _,
      fun ctx => .bind (Project.list_ends_at_cut s.cluster ctx) fun _ => .pure _⟩
  · exact fun _ _ ctx _ =>
      .bind (.of_result _) fun _ => .bind (s.site.create_ends_at_cut s.cluster ctx) fun _ => .pure _

/-! ## The server -/

namespace Server

variable {server : Server} {ctx : RequestContext}

/-- The backend of every kind that a name stands for ends at the first cut. -/
def EndsAtCut (server : Server) : Prop :=
  ∀ resource kind, server.kind resource = .ok kind → kind.backend.EndsAtCut

/-- Getting an object ends at the first cut. -/
theorem get_ends_at_cut (h : server.EndsAtCut) (resource name : String) :
    (server.get ctx resource name).EndsAtCut := by
  refine .of_result_bind fun kind hkind => ?_
  obtain ⟨found, hfound, hsupports⟩ := result_bind_eq_ok_iff.mp hkind
  split at hsupports
  · cases hsupports
    have hbackend := h resource kind hfound
    refine .bind ?_ fun _ => .pure _
    unfold find
    cases hcase : kind.backend with
    | catalog source => exact .of_result _
    | lookup source =>
        rw [hcase] at hbackend
        exact hbackend.1 ctx name
    | compute creator => exact .throw _
  · cases hsupports

/-- The kind to be listed is one that a name stands for. -/
theorem kind_of_accept_list {resource : String} {options : ListOptions} {kind : Kind}
    {selector : Selector} (h : server.acceptList resource options = .ok (kind, selector)) :
    server.kind resource = .ok kind := by
  obtain ⟨found, hfound, haccept⟩ := result_bind_eq_ok_iff.mp h
  split at haccept
  · cases haccept
  · split at haccept
    · cases haccept
    · split at haccept
      · cases haccept
      · obtain ⟨_, -, hpair⟩ := result_bind_eq_ok_iff.mp haccept
        cases hpair
        exact hfound

/-- Listing objects ends at the first cut. -/
theorem list_ends_at_cut (h : server.EndsAtCut) (resource : String) (options : ListOptions) :
    (server.list ctx resource options).EndsAtCut := by
  refine .of_result_bind fun ⟨kind, selector⟩ haccept => ?_
  have hbackend := h resource kind (kind_of_accept_list haccept)
  refine .bind ?_ fun _ => .pure _
  unfold select
  cases hcase : kind.backend with
  | catalog source => exact .of_result _
  | lookup source =>
      rw [hcase] at hbackend
      exact .bind (hbackend.2 ctx) fun _ => .pure _
  | compute creator => exact .throw _

/-- The computation that is asked is the one behind the kind that a name stands for. -/
theorem kind_of_accept_create {resource : String} {options : CreateOptions} {kind : Kind}
    {creator : Creator} (h : server.acceptCreate resource options = .ok (kind, creator)) :
    server.kind resource = .ok kind ∧ kind.backend = .compute creator := by
  obtain ⟨found, hfound, haccept⟩ := result_bind_eq_ok_iff.mp h
  split at haccept
  · next other hbackend =>
      split at haccept
      · cases haccept
      · split at haccept
        · cases haccept
        · cases haccept
          exact ⟨hfound, hbackend⟩
  · cases haccept

/-- Sending an object ends at the first cut. -/
theorem create_ends_at_cut (h : server.EndsAtCut) (resource : String) (body : Json)
    (options : CreateOptions) : (server.create ctx resource body options).EndsAtCut := by
  refine .of_result_bind fun ⟨kind, creator⟩ haccept => ?_
  obtain ⟨hkind, hcase⟩ := kind_of_accept_create haccept
  have hbackend := h resource kind hkind
  rw [hcase] at hbackend
  exact hbackend kind.gvk server.authorizer ctx body

/-- A server of the standard kinds ends what it answers at the first cut. -/
theorem ends_at_cut_of_standard {s : Surroundings}
    (h : Registry.standard s = .ok server.registry) : server.EndsAtCut := by
  intro resource kind hkind
  obtain ⟨hkinds, hsound⟩ := Registry.foldlM_register_eq_ok h
  have hmem := Registry.lookup_mem (hsound fun _ hentry => by cases hentry) hkind
  rw [hkinds] at hmem
  -- The registry was empty at first, so that its kinds are the standard ones.
  exact Kind.standard_ends_at_cut s kind hmem

/-- The standard kinds can be registered, and for every request to them, if a question to the
cluster, a discovery of its kinds or an access review is cut off, then nothing is asked after it,
and the request fails with the error of the cut. A call that is refused or cut off always leaves
the event that this is about. -/
theorem standard_kinds_stop_at_cut (s : Surroundings) :
    (∃ registry, Registry.standard s = .ok registry ∧
      ∀ (authorizer : Option Authorizer) (ctx : RequestContext) (resource : String),
        (∀ name, Action.StopsAtCut (get ⟨registry, authorizer⟩ ctx resource name)) ∧
        (∀ options, Action.StopsAtCut (list ⟨registry, authorizer⟩ ctx resource options)) ∧
        ∀ body options,
          Action.StopsAtCut (create ⟨registry, authorizer⟩ ctx resource body options)) ∧
    ∀ (α : Type) (ctx : RequestContext) (call : Call α) (w : World),
      (ctx.abort? w.now ≠ none ∨ (call ctx.horizon? w).1 = .error .cut) →
      ∃ e, ∃ final : World, ctx.run call w = (.error e, final.emit (.cutOff e)) := by
  refine ⟨?_, fun α ctx call w h => RequestContext.run_marks_cut h⟩
  obtain ⟨registry, hregistry⟩ : ∃ registry, Registry.standard s = .ok registry := ⟨_, rfl⟩
  refine ⟨registry, hregistry, fun authorizer ctx resource => ?_⟩
  have hserver : Server.EndsAtCut ⟨registry, authorizer⟩ := ends_at_cut_of_standard hregistry
  exact ⟨fun name => (get_ends_at_cut hserver resource name).stops_at_cut,
    fun options => (list_ends_at_cut hserver resource options).stops_at_cut,
    fun body options => (create_ends_at_cut hserver resource body options).stops_at_cut⟩

/-- What the standard kinds need before a cluster. -/
def before (cluster : Cluster) : Surroundings where
  cluster := cluster
  site := {}
  charts := ⟨"charts"⟩

/-- The standard kinds before a cluster, registered. -/
def registered (cluster : Cluster) : Registry :=
  (Registry.standard (before cluster)).toOption.getD {}

/-- A host cluster that takes twenty milliseconds for every reply. -/
def slowHost : Cluster := .host fun _ _ => { latency := 20 }

/-- A world in which the kinds of the cluster were listed so long ago that the list is not fresh. -/
def longAfter : World where
  now := 40000
  realTime := true
  kinds := some {
    resources := [⟨"apps", "v1", "deployments", "Deployment", .namespaced⟩], since := 500 }

/-- Someone who has ten milliseconds left looks for a gateway class. -/
def findClass (registry : Registry) : Action Json :=
  get ⟨registry, none⟩ { deadline := some 40010 } "gatewayinfos" "outer"

/-- Someone who has ten milliseconds wants a config map calculated, of which a reviewer is asked who
takes twenty. -/
def calculateConfigMap (registry : Registry) : Action Json :=
  create ⟨registry, some (.remote (.fixed (.ok { allowed := true }) 20))⟩ { deadline := some 10 }
    "resourcecalculators" (.object [("request", .object [("resource",
      .object [("apiVersion", .str "v1"), ("kind", .str "ConfigMap")])])]) {}

/-- The class is not found in the list that has grown old, so that the cluster is asked for its
kinds once more, and that is cut off. The calculation is cut off while the reviewer is asked, and
the config map is not looked up a second time. -/
theorem discovery_and_review_are_cut :
    (∃ registry, Registry.standard (before slowHost) = .ok registry ∧
      (findClass registry longAfter).2.trace = [.discovery, .sent "GET" "/apis" none,
        .cutOff RequestContext.deadlineExceeded] ∧
      (findClass registry longAfter).1 = .error RequestContext.deadlineExceeded) ∧
    ∃ registry, Registry.standard (before (.memory {})) = .ok registry ∧
      (calculateConfigMap registry {}).2.trace =
        [.clusterAsked (.resolve ⟨"", "v1", "ConfigMap"⟩),
          .reviewed (.ofAttributes (.forTarget .anonymous
            { verb := "create", group := "", version := "v1", resource := "configmaps" })),
          .cutOff RequestContext.deadlineExceeded] ∧
      (calculateConfigMap registry {}).1 = .error RequestContext.deadlineExceeded := by
  have hregistered (cluster : Cluster) :
      Registry.standard (before cluster) = .ok (registered cluster) := rfl
  constructor
  · obtain ⟨⟨registry, hregistry, hstops⟩, -⟩ := standard_kinds_stop_at_cut (before slowHost)
    have hcut : (findClass registry).StopsAtCut := (hstops none _ "gatewayinfos").1 "outer"
    obtain rfl := Except.ok.inj ((hregistered slowHost).symm.trans hregistry)
    have htrace : (findClass (registered slowHost) longAfter).2.trace = longAfter.trace ++
        [.discovery, .sent "GET" "/apis" none, .cutOff RequestContext.deadlineExceeded] := by
      decide +kernel
    exact ⟨_, hregistry, htrace, hcut.error_of_trace htrace (by simp)⟩
  · obtain ⟨⟨registry, hregistry, hstops⟩, -⟩ := standard_kinds_stop_at_cut (before (.memory {}))
    have hcut : (calculateConfigMap registry).StopsAtCut :=
      (hstops (some _) _ "resourcecalculators").2.2 _ {}
    obtain rfl := Except.ok.inj ((hregistered (.memory {})).symm.trans hregistry)
    have htrace : (calculateConfigMap (registered (.memory {})) {}).2.trace = World.trace {} ++
        [.clusterAsked (.resolve ⟨"", "v1", "ConfigMap"⟩),
          .reviewed (.ofAttributes (.forTarget .anonymous
            { verb := "create", group := "", version := "v1", resource := "configmaps" })),
          .cutOff RequestContext.deadlineExceeded] := by
      decide +kernel
    exact ⟨_, hregistry, htrace, hcut.error_of_trace htrace (by simp)⟩

end Server

end VirtualApi

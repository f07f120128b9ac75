import VirtualApi.Kind.Standard
import VirtualApi.Proofs.Access.Tiers
import VirtualApi.Proofs.Cluster.Memory
import VirtualApi.Proofs.Kind.Computation
import VirtualApi.Proofs.Workload.Calculation

/-!
# Who may have a calculation

A manifest is measured only for a caller who may create it. The manifest is resolved twice, before
the caller is judged and again to be measured; `calculation_is_gated` says that the caller is judged
in between, once, and on exactly the resource that is reported as measured, and that without leave
the answer does not depend on what would have been measured.
-/

namespace VirtualApi

namespace Calculation

variable {metrics : MetricsRegistry} {manifest : Json} {apiType : ResourceId} {c : Calculation}
  {cluster : MemoryCluster} {ctx : RequestContext} {w final : World}

/-! ## What a calculation says of its resource -/

/-- What is measured is the resource that it is measured as. -/
theorem measure_api_type {workload : Workload} {version : String}
    (h : measure workload manifest apiType version = .ok c) : c.apiType = apiType := by
  unfold measure at h
  simp only [result_bind_eq_ok_iff] at h
  obtain ⟨_, _, _, _, _, _, _, _, _, _, _, _, _, _, _, _, h⟩ := h
  cases h
  rfl

/-- What is known of a manifest is said of the resource it was resolved to. -/
theorem of_manifest_api_type (h : ofManifest metrics manifest apiType = .ok c) :
    c.apiType = apiType := by
  unfold ofManifest at h
  dsimp only at h
  split at h
  · cases h
    rfl
  · split at h
    · next hmeasure =>
        cases h
        exact measure_api_type hmeasure
    · cases h

/-! ## What is asked of the cluster and of the authorizer -/

/-- A manifest is resolved when it names a kind that the cluster serves, and the answer comes while
the request runs. -/
theorem resolve_eq_ok_iff :
    resolve (.memory cluster) ctx manifest w = (.ok apiType, final) ↔
      ∃ gvk, manifest.isObject = true ∧ GroupVersionKind.ofObject? manifest = some gvk ∧
        ctx.abort? (w.now + cluster.latency) = none ∧ cluster.findKind gvk = .ok apiType ∧
        final = cluster.answered (.resolve gvk) w := by
  unfold resolve
  cases hobject : manifest.isObject with
  | false =>
      constructor
      · intro h
        cases h
      · rintro ⟨_, h, -⟩
        cases h
  | true =>
      cases hgvk : GroupVersionKind.ofObject? manifest with
      | none =>
          constructor
          · intro h
            cases h
          · rintro ⟨_, -, h, -⟩
            cases h
      | some gvk =>
          simp [Action.map_error_eq_ok_iff, Cluster.resolve, MemoryCluster.answer_eq_ok_iff]

/-- The attributes of a caller who wants to create a manifest of a resource. -/
def creation (ctx : RequestContext) (apiType : ResourceId) (manifest : Json) : Attributes where
  user := ctx.user
  verb := "create"
  group := apiType.group
  version := apiType.version
  resource := apiType.name
  namespaceName :=
    if apiType.isNamespaced then
      if manifest.textAt ["metadata", "namespace"] = "" then ctx.namespaceName.getD ""
      else manifest.textAt ["metadata", "namespace"]
    else ""
  name := manifest.textAt ["metadata", "name"]

/-- The namespace of a manifest is its own, or else that of the request. -/
theorem namespace_of_eq :
    namespaceOf ctx apiType manifest =
      if apiType.isNamespaced then
        if manifest.textAt ["metadata", "namespace"] = "" then ctx.namespaceName.getD ""
        else manifest.textAt ["metadata", "namespace"]
      else "" := by
  unfold namespaceOf nonEmpty?
  split
  · split <;> simp
  · rfl

/-- Once the manifest is resolved, the caller is judged on creating it. -/
theorem access_target_eq_ok {target : AccessTarget}
    (h : accessTarget (.memory cluster) ctx manifest w = (.ok target, final)) :
    ∃ gvk apiType, GroupVersionKind.ofObject? manifest = some gvk ∧
      cluster.findKind gvk = .ok apiType ∧ ctx.abort? (w.now + cluster.latency) = none ∧
      final = cluster.answered (.resolve gvk) w ∧
      Attributes.forTarget ctx.user target = creation ctx apiType manifest := by
  obtain ⟨apiType, middle, hresolve, htarget⟩ := Action.bind_eq_ok_iff.mp h
  cases htarget
  obtain ⟨gvk, -, hgvk, hlive, hkind, hfinal⟩ := resolve_eq_ok_iff.mp hresolve
  refine ⟨gvk, apiType, hgvk, hkind, hlive, hfinal, ?_⟩
  simp only [Attributes.forTarget, creation, namespace_of_eq, objectName]

/-- What is computed is said of the resource that the cluster serves for the kind of the
manifest. -/
theorem compute_eq_ok
    (h : compute (.memory cluster) metrics ctx manifest w = (.ok c, final)) :
    ∃ gvk, GroupVersionKind.ofObject? manifest = some gvk ∧
      cluster.findKind gvk = .ok c.apiType ∧ final = cluster.answered (.resolve gvk) w := by
  obtain ⟨apiType, middle, hresolve, hmanifest⟩ := Action.bind_eq_ok_iff.mp h
  obtain ⟨gvk, -, hgvk, -, hkind, hfinal⟩ := resolve_eq_ok_iff.mp hresolve
  rcases hresult : ofManifest metrics manifest apiType with e | known
  · rw [hresult] at hmanifest
    cases hmanifest
  · rw [hresult] at hmanifest
    cases hmanifest
    exact ⟨gvk, hgvk, by rw [hkind, of_manifest_api_type hresult], hfinal⟩

/-! ## The gate before a calculation -/

/-- The caller gets as far as the measuring: the body is read and carries a manifest of a kind that
the cluster serves, that is known while the request runs, and the authorizer, asked once it is,
allows to create the manifest. -/
structure Cleared (cluster : MemoryCluster) (authorizer : Authorizer) (ctx : RequestContext)
    (body : Json) (w : World) (manifest : Json) (gvk : GroupVersionKind) (apiType : ResourceId)
    (decided : World) : Prop where
  read : (Kind.calculation (.memory cluster) .builtin).readBody
    (Kind.metaGvk "ResourceCalculator") body = .ok manifest
  carried : (body.get? "request").bind requestOfJson? = some manifest
  named : GroupVersionKind.ofObject? manifest = some gvk
  served : cluster.findKind gvk = .ok apiType
  live : ctx.abort? (w.now + cluster.latency) = none
  allowed : ∃ verdict, verdict.decision = .allow ∧
    authorizer.authorize ctx (creation ctx apiType manifest)
      (cluster.answered (.resolve gvk) w) = (verdict, decided)

end Calculation

namespace Kind

/-- The kind of calculations with something else in place of measuring. -/
def calculatorWith (cluster : Cluster)
    (compute : RequestContext → Json → Action Calculation) : Kind :=
  { resourceCalculator cluster .builtin with
    backend := .compute { calculation cluster .builtin with compute := compute }.create }

/-- The kind of calculations measures. -/
theorem resource_calculator_eq (cluster : Cluster) (metrics : MetricsRegistry) :
    resourceCalculator cluster metrics =
      calculatorWith cluster (Calculation.compute cluster metrics) := rfl

end Kind

namespace Server

variable {server : Server} {cluster : MemoryCluster} {authorizer : Authorizer}
  {ctx : RequestContext} {resource : String} {body : Json} {options : CreateOptions} {w : World}

/-- Sending an object to the kind of calculations is refused for a dry run that is not known, and
else answered by the calculation. -/
theorem create_calculator {compute : RequestContext → Json → Action Calculation}
    (hkind : server.kind resource = .ok (Kind.calculatorWith (.memory cluster) compute))
    (hauthorizer : server.authorizer = some authorizer) :
    server.create ctx resource body options w =
      match options.dryRun.find? (· ≠ "All") with
      | some other => (.error (.badRequest ("invalid dry run option " ++ Text.quoted other)), w)
      | none =>
          { Kind.calculation (.memory cluster) .builtin with compute := compute }.create
            (Kind.metaGvk "ResourceCalculator") (some authorizer) ctx body w := by
  rw [create_computation hkind rfl rfl, hauthorizer]
  rfl

/-- A caller who passes the gate before a calculation is cleared for it. -/
theorem cleared_of_let_pass {manifest : Json} {target : Option AccessTarget}
    {asked passed : World}
    (hread : (Kind.calculation (.memory cluster) .builtin).readBody
      (Kind.metaGvk "ResourceCalculator") body = .ok manifest)
    (htarget : (Kind.calculation (.memory cluster) .builtin).accessTarget ctx manifest w =
      (.ok target, asked))
    (hpass : Computation.letPass ctx target (some authorizer) asked = (.ok (), passed)) :
    ∃ gvk apiType,
      Calculation.Cleared cluster authorizer ctx body w manifest gvk apiType passed := by
  obtain ⟨wanted, middle, hwanted, hsome⟩ := Action.bind_eq_ok_iff.mp htarget
  cases hsome
  obtain ⟨gvk, apiType, hgvk, hkind, hlive, hasked, hattributes⟩ :=
    Calculation.access_target_eq_ok hwanted
  -- The verdict is asked for in the world in which the manifest was resolved.
  have hcheck : (Gate.pass ctx.user.name wanted
      (authorizer.authorize ctx (.forTarget ctx.user wanted) asked).1,
      (authorizer.authorize ctx (.forTarget ctx.user wanted) asked).2) = (.ok (), passed) := hpass
  rw [hattributes, hasked] at hcheck
  obtain ⟨hverdict, hpassed⟩ := Prod.mk.inj hcheck
  exact ⟨gvk, apiType, {
    read := hread
    carried := (Computation.read_body_eq_ok hread).2
    named := hgvk
    served := hkind
    live := hlive
    allowed := ⟨_, Gate.pass_eq_ok_iff.mp hverdict, Prod.ext rfl hpassed⟩ }⟩

/-- An answer is given to a caller who is cleared, and about the resource that the caller is cleared
for; after the verdict the manifest is resolved once more. -/
theorem cleared_of_create {metrics : MetricsRegistry} {out : Json} {final : World}
    (hkind : server.kind resource = .ok (Kind.resourceCalculator (.memory cluster) metrics))
    (hauthorizer : server.authorizer = some authorizer)
    (hout : server.create ctx resource body options w = (.ok out, final)) :
    ∃ manifest gvk apiType decided,
      Calculation.Cleared cluster authorizer ctx body w manifest gvk apiType decided ∧
      out.at? ["response", "apiType"] = some apiType.toJson ∧
      final = cluster.answered (.resolve gvk) decided := by
  rw [Kind.resource_calculator_eq] at hkind
  rw [create_calculator hkind hauthorizer] at hout
  split at hout
  · cases hout
  · obtain ⟨manifest, target, response, asked, passed, hread, htarget, hpass, hcompute, rfl⟩ :=
      Computation.create_eq_ok_iff.mp hout
    obtain ⟨gvk, apiType, hcleared⟩ := cleared_of_let_pass hread htarget hpass
    -- The second time, the manifest still names the same kind, and the cluster serves the same
    -- resource for it.
    obtain ⟨gvk', hgvk', hkind', hfinal⟩ := Calculation.compute_eq_ok hcompute
    cases hcleared.named.symm.trans hgvk'
    cases hcleared.served.symm.trans hkind'
    refine ⟨manifest, gvk, _, passed, hcleared, ?_, hfinal⟩
    rw [Computation.respond_response (Computation.read_body_eq_ok hread).1]
    exact Calculation.to_json_api_type response

/-- Without clearance the answer is an error, and the same whatever would be computed. -/
theorem create_of_not_cleared
    (hforbidden : ¬ ∃ manifest gvk apiType decided,
      Calculation.Cleared cluster authorizer ctx body w manifest gvk apiType decided) :
    ∃ e final, ∀ (server : Server) (compute : RequestContext → Json → Action Calculation),
      server.kind resource = .ok (Kind.calculatorWith (.memory cluster) compute) →
      server.authorizer = some authorizer →
      server.create ctx resource body options w = (.error e, final) := by
  cases hdry : options.dryRun.find? (· ≠ "All") with
  | some given =>
      refine ⟨.badRequest ("invalid dry run option " ++ Text.quoted given), w,
        fun server compute hkind hauthorizer => ?_⟩
      rw [create_calculator hkind hauthorizer, hdry]
  | none =>
      rcases Computation.create_cases (Kind.calculation (.memory cluster) .builtin)
          (Kind.metaGvk "ResourceCalculator") (some authorizer) ctx body w with
        ⟨manifest, target, asked, passed, hread, htarget, hpass⟩ | ⟨e, final, h⟩
      · obtain ⟨gvk, apiType, hcleared⟩ := cleared_of_let_pass hread htarget hpass
        exact absurd ⟨manifest, gvk, apiType, passed, hcleared⟩ hforbidden
      · refine ⟨e, final, fun server compute hkind hauthorizer => ?_⟩
        rw [create_calculator hkind hauthorizer, hdry]
        exact h compute

/-- An answer comes only to a caller who is cleared, after the authorizer was asked once, between
the two times that the manifest is resolved, whether the caller of the request may create the
manifest as the resource that the answer is about. Whoever is not cleared has an error as the
answer, which does not depend on what would have been measured. -/
theorem calculation_is_gated (server : Server) (cluster : MemoryCluster)
    (metrics : MetricsRegistry) (authorizer : Authorizer) (ctx : RequestContext)
    (resource : String) (body : Json) (options : CreateOptions) (w : World)
    (hkind : server.kind resource = .ok (Kind.resourceCalculator (.memory cluster) metrics))
    (hauthorizer : server.authorizer = some authorizer) :
    (∀ out final, server.create ctx resource body options w = (.ok out, final) →
      ∃ manifest gvk apiType decided,
        Calculation.Cleared cluster authorizer ctx body w manifest gvk apiType decided ∧
        out.at? ["response", "apiType"] = some apiType.toJson ∧
        final = cluster.answered (.resolve gvk) decided ∧
        ∀ tag latency verdict, authorizer = .custom tag latency verdict →
          final.trace = w.trace ++ [.clusterAsked (.resolve gvk),
            .authorizerAsked tag (Calculation.creation ctx apiType manifest),
            .clusterAsked (.resolve gvk)]) ∧
    ((¬ ∃ manifest gvk apiType decided,
        Calculation.Cleared cluster authorizer ctx body w manifest gvk apiType decided) →
      ∃ e final, server.create ctx resource body options w = (.error e, final) ∧
        ∀ (other : Server) (compute : RequestContext → Json → Action Calculation),
          other.kind resource = .ok (Kind.calculatorWith (.memory cluster) compute) →
          other.authorizer = some authorizer →
          other.create ctx resource body options w = (.error e, final)) := by
  constructor
  · intro out final hout
    obtain ⟨manifest, gvk, apiType, decided, hcleared, habout, hfinal⟩ :=
      cleared_of_create hkind hauthorizer hout
    refine ⟨manifest, gvk, apiType, decided, hcleared, habout, hfinal, ?_⟩
    rintro tag latency verdict rfl
    obtain ⟨_, -, hdecided⟩ := hcleared.allowed
    cases hdecided
    rw [hfinal]
    simp [MemoryCluster.answered, World.emit]
  · intro hforbidden
    obtain ⟨e, final, h⟩ := create_of_not_cleared hforbidden
    exact ⟨e, final, h server _ hkind hauthorizer, h⟩

/-- A server of calculations alone. -/
def ofCalculator (cluster : MemoryCluster) (metrics : MetricsRegistry) (authorizer : Authorizer) :
    Server where
  registry :=
    { names := [("resourcecalculators", Kind.resourceCalculator (.memory cluster) metrics)] }
  authorizer := some authorizer

/-- A ConfigMap is calculated for a caller who may create it, and the authorizer sees one
question. -/
theorem config_map_is_gated :
    (ofCalculator {} .builtin (.constant "gate" (.allow ""))).kind "resourcecalculators" =
        .ok (Kind.resourceCalculator (.memory {}) .builtin) ∧
      ∃ out final gvk attributes,
        (ofCalculator {} .builtin (.constant "gate" (.allow ""))).create {} "resourcecalculators"
          (.obj [("request", .obj [("resource",
            .obj [("apiVersion", .str "v1"), ("kind", .str "ConfigMap")])])]) {} {} =
          (.ok out, final) ∧
        final.trace = [.clusterAsked (.resolve gvk), .authorizerAsked "gate" attributes,
          .clusterAsked (.resolve gvk)] := by
  refine ⟨rfl, ?_⟩
  obtain ⟨out, final, hout⟩ : ∃ out final,
      (ofCalculator {} .builtin (.constant "gate" (.allow ""))).create {} "resourcecalculators"
        (.obj [("request", .obj [("resource",
          .obj [("apiVersion", .str "v1"), ("kind", .str "ConfigMap")])])]) {} {} =
        (.ok out, final) := ⟨_, _, rfl⟩
  obtain ⟨manifest, gvk, apiType, _, _, _, _, hasked⟩ :=
    (calculation_is_gated _ {} .builtin _ _ _ _ _ {} rfl rfl).1 out final hout
  exact ⟨out, final, gvk, Calculation.creation {} apiType manifest, hout, hasked "gate" _ _ rfl⟩

end Server

end VirtualApi

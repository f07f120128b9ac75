import VirtualApi.Proofs.Kind.Overlay
import VirtualApi.Proofs.Workload.Calculation

/-!
# The envelopes of the standard kinds

Five of the standard kinds are computations behind an envelope. On a memory cluster that takes no
time each of them answers again, and can read what it wrote (`Envelope.repeatable`). So
`envelope_create_overlays` says of all of them that an answer only lays the kind and the response
over what was sent, and that it is the answer again when it is sent itself.
-/

namespace VirtualApi

/-! ## Responses are read as they were written -/

/-- Manifests are read as they were written. -/
theorem ManifestsResponse.reads_back (response : ManifestsResponse) :
    ManifestsResponse.ofJson? response.toJson = some response := rfl

/-- The source of a preset is read as it was written. -/
theorem PresetSource.reads_back (source : PresetSource) :
    PresetSource.ofJson? source.toJson = some source := by
  obtain ⟨kind, namespaceName, name⟩ := source
  unfold toJson Json.textField?
  by_cases hnamespace : namespaceName = ""
  · rw [if_pos hnamespace, hnamespace]
    rfl
  · rw [if_neg hnamespace]
    rfl

namespace Preset

/-- A preset is read as it was written. -/
theorem reads_back (preset : Preset) : ofJson? preset.toJson = some preset := by
  obtain ⟨source, values⟩ := preset
  show ((PresetSource.ofJson? source.toJson).bind fun source => some (Preset.mk source values)) = _
  rw [PresetSource.reads_back]
  rfl

/-- Presets are read as they were written. -/
theorem list_reads_back (presets : List Preset) :
    listOfJson? (listToJson presets) = some presets := by
  show (presets.map toJson).mapM ofJson? = some presets
  induction presets with
  | nil => rfl
  | cons preset rest ih =>
      rw [List.map_cons, List.mapM_cons, reads_back, ih]
      rfl

end Preset

/-! ## The computations behind the envelopes -/

namespace Kind

/-- A kind that answers an envelope with a computation. -/
inductive Envelope (s : Surroundings) :
    (Request Response : Type) → Kind → Computation Request Response → Prop
  | resourceCalculator :
      Envelope s Json Calculation (Kind.resourceCalculator s.cluster s.metrics)
        (calculation s.cluster s.metrics)
  | renderAPI : Envelope s RenderingRequest Json (Kind.renderAPI s.cluster) (rendering s.cluster)
  | resourceManifests :
      Envelope s ManifestsRequest ManifestsResponse (Kind.resourceManifests s.charts s.cluster)
        (manifests s.charts s.cluster)
  | chartPresetQuery :
      Envelope s PresetQuery (List Preset) (Kind.chartPresetQuery s.cluster) (presets s.cluster)
  | renderSection : Envelope s Json Json Kind.renderSection echo

namespace Envelope

variable {s : Surroundings} {Request Response : Type} {kind : Kind}
  {c : Computation Request Response} {memory : MemoryCluster} {ctx : RequestContext}

/-- The kind is served by the computation. -/
theorem backend_eq (h : Envelope s Request Response kind c) : kind.backend = .compute c.create := by
  cases h <;> rfl

/-- Objects can be sent. -/
theorem supports_create (h : Envelope s Request Response kind c) :
    kind.supports .create = true := by
  cases h <;> rfl

/-- On a memory cluster that takes no time the computation answers again, and it can read what it
wrote. -/
theorem repeatable (h : Envelope s Request Response kind c) (hcluster : s.cluster = .memory memory)
    (hlatency : memory.latency = 0) : c.Repeatable ctx := by
  cases h with
  | resourceCalculator =>
      rw [hcluster]
      refine {
        target := fun manifest => ?_
        compute := fun manifest => ?_
        readable := fun {manifest w response final} hcompute => ?_ }
      · exact .bind (.bind (Calculation.resolve_repeats hlatency manifest) fun _ => .pure _)
          fun _ => .pure _
      · exact .bind (Calculation.resolve_repeats hlatency manifest) fun _ => .of_result _
      · -- what is read back is in range because it was measured from a manifest
        obtain ⟨apiType, middle, -, hmeasured⟩ := Action.bind_eq_ok_iff.mp hcompute
        have hmanifest : Calculation.ofManifest s.metrics manifest apiType = .ok response :=
          congrArg Prod.fst hmeasured
        exact Option.isSome_iff_exists.mpr
          ⟨response, Calculation.reads_back (Calculation.of_manifest_counted hmanifest)⟩
  | renderAPI =>
      rw [hcluster]
      exact {
        target := fun _ => .pure _
        compute := render_objects_repeats hlatency
        readable := fun _ => rfl }
  | resourceManifests =>
      rw [hcluster]
      exact {
        target := fun _ => .pure _
        compute := fun request =>
          .bind (ChartEditor.load_repeats hlatency s.charts request.model) fun _ => .pure _
        readable := fun _ => rfl }
  | chartPresetQuery =>
      rw [hcluster]
      exact {
        target := fun _ => .pure _
        compute := Preset.load_repeats hlatency
        readable := fun {_ _ response _} _ =>
          Option.isSome_iff_exists.mpr ⟨response, Preset.list_reads_back response⟩ }
  | renderSection =>
      exact {
        target := fun _ => .pure _
        compute := fun _ => .pure _
        readable := fun _ => rfl }

end Envelope

end Kind

namespace Server

open VirtualApi.Computation (Overlays AgreeButResponse gateTime letPass)

/-- On a memory cluster that takes no time, an answer to an envelope has the apiVersion and the kind
of the registered kind, and but for these and the response it has the fields of what was sent; the
response is what the computation gives for the request that was sent. The same answer is given
whatever is sent as the response, as long as it can be read, and it is given once more, also later,
when the answer itself is sent and the request still runs. -/
theorem envelope_create_overlays {Request Response : Type} {kind : Kind}
    {c : Computation Request Response} (server : Server) (s : Surroundings)
    (memory : MemoryCluster) (ctx : RequestContext) (resource : String) (body : Json)
    (options : CreateOptions) (w : World) (hcluster : s.cluster = .memory memory)
    (hlatency : memory.latency = 0) (hkind : server.kind resource = .ok kind)
    (henvelope : Kind.Envelope s Request Response kind c) (hbody : body.Ordered) :
    ∀ out final, server.create ctx resource body options w = (.ok out, final) →
      Overlays kind.gvk body out ∧
      (∃ sent request target response asked passed, body.get? "request" = some sent ∧
        c.readRequest sent = some request ∧ c.accessTarget ctx request w = (.ok target, asked) ∧
        letPass ctx target server.authorizer asked = (.ok (), passed) ∧
        c.compute ctx request passed = (.ok response, final) ∧
        out.get? "response" = some (c.writeResponse response)) ∧
      (∀ other : Json, other.Ordered → AgreeButResponse other body → c.ReadsResponse other →
        server.create ctx resource other options w = (.ok out, final)) ∧
      ∀ later, final.Keeps later →
        ctx.abort? (later.now + gateTime server.authorizer) = none →
        ∃ again, server.create ctx resource out options later = (.ok out, again) := by
  intro out final hout
  have hdry : options.dryRun.find? (· ≠ "All") = none := by
    rw [create_computation hkind henvelope.backend_eq henvelope.supports_create] at hout
    split at hout
    · cases hout
    · next hnone => exact hnone
  -- so the computation answers whatever is sent
  have hcreate (sent : Json) (now : World) : server.create ctx resource sent options now =
      c.create kind.gvk server.authorizer ctx sent now := by
    rw [create_computation hkind henvelope.backend_eq henvelope.supports_create, hdry]
  rw [hcreate] at hout
  refine ⟨Computation.overlays_of_create hbody hout, Computation.response_of_create hbody hout,
    fun other hother hagree hreads => ?_, fun later hkeeps hlive => ?_⟩
  · rw [hcreate]
    exact Computation.create_of_agree hbody hother hout hagree hreads
  · obtain ⟨again, hagain⟩ := Computation.create_again (henvelope.repeatable hcluster hlatency)
      hbody hout hkeeps hlive
    exact ⟨again, (hcreate out later).trans hagain⟩

/-- A server of one kind, which everyone may send to. -/
def ofKind (kind : Kind) : Server where
  registry := { names := [(kind.plural, kind)] }

/-- A pod with one container that asks for a tenth of a processor. -/
def smallPod : Json :=
  .obj [("apiVersion", .str "v1"), ("kind", .str "Pod"),
    ("spec", .obj [("containers", .arr [.obj [("name", .str "app"),
      ("resources", .obj [("requests", .obj [("cpu", .str "100m")])])]])])]

/-- A request to calculate the pod. -/
def podRequest : Json :=
  .obj [("request", .obj [("resource", smallPod)])]

/-- A pod is calculated, with what it asks for in the response, and sending the answer gives the
same answer. -/
theorem pod_is_calculated_again :
    ∃ out final again,
      (ofKind (.resourceCalculator (.memory {}) .builtin)).create {} "resourcecalculators"
        podRequest {} {} = (.ok out, final) ∧
      Overlays (Kind.metaGvk "ResourceCalculator") podRequest out ∧
      (∃ response passed,
        Calculation.compute (.memory {}) .builtin {} smallPod passed = (.ok response, final) ∧
        out.get? "response" = some response.toJson) ∧
      out.at? ["response", "totalResource", "requests", "cpu"] = some (.str "100m") ∧
      (ofKind (.resourceCalculator (.memory {}) .builtin)).create {} "resourcecalculators" out {}
        final = (.ok out, again) := by
  obtain ⟨out, final, hout, hcpu⟩ : ∃ out final,
      (ofKind (.resourceCalculator (.memory {}) .builtin)).create {} "resourcecalculators"
        podRequest {} {} = (.ok out, final) ∧
      out.at? ["response", "totalResource", "requests", "cpu"] = some (.str "100m") :=
    ⟨_, _, rfl, rfl⟩
  have hordered : podRequest.Ordered := by
    simp only [podRequest, smallPod, Json.ordered_obj_iff, Json.ordered_arr_iff, Json.Ordered.str,
      List.forall_mem_cons, List.not_mem_nil, false_imp_iff, implies_true]
    decide
  obtain ⟨hover, ⟨sent, request, -, response, -, passed, hsent, hread, -, -, hcompute, hresponse⟩,
    -, hagain⟩ :=
    envelope_create_overlays (ofKind (.resourceCalculator (.memory {}) .builtin))
      { cluster := .memory {}, site := {}, charts := ⟨""⟩ } {} {} _ _ _ _ rfl rfl rfl
      .resourceCalculator hordered out final hout
  obtain ⟨again, hagain⟩ := hagain final (.refl final) rfl
  -- the request that is read is the pod
  obtain rfl : sent = .obj [("resource", smallPod)] := Option.some.inj hsent.symm
  obtain rfl : request = smallPod := Option.some.inj (hread.symm.trans rfl)
  exact ⟨out, final, again, hout, hover, ⟨response, passed, hcompute, hresponse⟩, hcpu, hagain⟩

end Server

end VirtualApi

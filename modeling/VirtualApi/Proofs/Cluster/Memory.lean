import VirtualApi.Cluster.Basic
import VirtualApi.Proofs.Request.Action

/-!
# How a memory cluster answers

A cluster held in memory notes a question, takes its time and answers. `answer_eq_ok_iff` says when
an answer comes and what has changed by then, `served?` as which resource a kind is served, and
`heldOf` which objects there are of a kind in the version that is preferred.
-/

namespace VirtualApi.MemoryCluster

/-- The world after a question was answered. -/
def answered (cluster : MemoryCluster) (question : ClusterQuestion) (w : World) : World :=
  { w with now := w.now + cluster.latency, trace := w.trace ++ [.clusterAsked question] }

variable {α : Type} {cluster : MemoryCluster} {ctx : RequestContext} {question : ClusterQuestion}
  {w final : World}

/-- An answer that comes before the request is over is the one the cluster has. -/
theorem answer_of_live {result : ApiResult α}
    (hlive : ctx.abort? (w.now + cluster.latency) = none) :
    cluster.answer ctx question result w = (result, cluster.answered question w) := by
  have hnow := RequestContext.abort_eq_none_of_le (Nat.le_add_right _ cluster.latency) hlive
  have hcall : (do
      Call.emit (.clusterAsked question); Call.wait cluster.latency; Call.answer result)
        ctx.horizon? w = Call.answer result ctx.horizon? (cluster.answered question w) :=
    RequestContext.emit_wait_apply hlive
  cases result with
  | ok a => exact RequestContext.run_of_ok hnow hcall
  | error e => exact RequestContext.run_of_failed hnow hcall

/-- A request that is over before the answer comes has none. -/
theorem answer_of_cut {result : ApiResult α} {a : α}
    (hcut : ctx.abort? (w.now + cluster.latency) ≠ none) :
    cluster.answer ctx question result w ≠ (.ok a, final) := by
  intro h
  have hlive := (RequestContext.run_eq_ok_iff.mp h).1
  obtain ⟨cut, hrun⟩ := RequestContext.run_emit_wait_of_cut
    (.clusterAsked question) (Call.answer result) hlive hcut
  have hanswer := hrun.symm.trans h
  cases hanswer

/-- An answer comes exactly when the cluster has one and the request runs until it is there. -/
theorem answer_eq_ok_iff {result : ApiResult α} {a : α} :
    cluster.answer ctx question result w = (.ok a, final) ↔
      ctx.abort? (w.now + cluster.latency) = none ∧ result = .ok a ∧
        final = cluster.answered question w := by
  by_cases hlive : ctx.abort? (w.now + cluster.latency) = none
  · rw [answer_of_live hlive]
    constructor
    · intro h
      cases h
      exact ⟨hlive, rfl, rfl⟩
    · rintro ⟨-, rfl, rfl⟩
      rfl
  · constructor
    · intro h
      exact absurd h (answer_of_cut hlive)
    · rintro ⟨h, -⟩
      exact absurd h hlive

/-- What is made of an answer might have been the answer: when it comes does not depend on it. -/
theorem answer_ok_map {β : Type} (f : α → β) (a : α) :
    (do pure (f (← cluster.answer ctx question (.ok a)))) w =
      cluster.answer ctx question (.ok (f a)) w := by
  unfold answer RequestContext.run
  simp only [Action.bind_apply, Call.bind_apply, Call.emit_apply, Call.answer_ok_apply]
  cases ctx.abort? w.now with
  | some e => rfl
  | none =>
      rcases Call.wait cluster.latency ctx.horizon? (w.emit (.clusterAsked question)) with
        ⟨(_ | e) | _, middle⟩ <;> rfl

/-- A cluster that answers at once answers a request that still runs. -/
theorem yields_answer {now : Nat} (hlatency : cluster.latency = 0) (hlive : ctx.abort? now = none)
    (question : ClusterQuestion) (result : ApiResult α) :
    Action.Yields now (cluster.answer ctx question result) result := by
  rintro w rfl
  refine ⟨cluster.answered question w, answer_of_live ?_, ?_⟩
  · rwa [hlatency]
  · rw [answered, hlatency, Nat.add_zero]

/-! ## What is served -/

variable {gvk : GroupVersionKind} {resource : ResourceId}

/-- The resource that a kind is served as: the first of that kind. -/
def served? (cluster : MemoryCluster) (gvk : GroupVersionKind) : Option ResourceId :=
  cluster.resources.find? fun r => r.gvk = gvk

/-- The resource of a kind is found where the kind is served. -/
theorem find_kind_eq_ok_iff_served : cluster.findKind gvk = .ok resource ↔
    cluster.served? gvk = some resource := by
  unfold findKind served?
  cases cluster.resources.find? fun r => r.gvk = gvk <;> simp

/-- A kind that is not served has no match. -/
theorem find_kind_of_unserved (h : cluster.served? gvk = none) :
    cluster.findKind gvk = .error (noMatch gvk) := by
  unfold findKind
  rw [show cluster.resources.find? (fun r => r.gvk = gvk) = none from h]

/-- A kind that is not served is that of no resource. -/
theorem served_eq_none_iff :
    cluster.served? gvk = none ↔ ∀ r ∈ cluster.resources, r.gvk ≠ gvk := by
  unfold served?
  simp

/-- A kind is served as a resource of that kind. -/
theorem gvk_of_served (h : cluster.served? gvk = some resource) : resource.gvk = gvk := by
  simpa using List.find?_some h

/-! ## What is held -/

variable {group kind : String} {scope : Option String} {object : Json}

/-- The objects of a group and kind, in the version that is preferred; none where the kind is not
served. -/
def heldOf (cluster : MemoryCluster) (group kind : String) : List Json :=
  match Mapper.byKind? cluster.resources group kind with
  | some resource => cluster.objects.filter fun object =>
      object.textAt ["apiVersion"] = resource.apiVersion ∧ object.textAt ["kind"] = kind
  | none => []

/-- Nothing is held of a kind that is not served. -/
theorem held_of_unserved (h : Mapper.byKind? cluster.resources group kind = none) :
    cluster.heldOf group kind = [] := by
  rw [heldOf, h]

/-- The resource that is preferred for a kind is of that kind. -/
theorem kind_of_by_kind (h : Mapper.byKind? cluster.resources group kind = some resource) :
    resource.kind = kind := by
  have hfound := List.find?_some h
  simp only [Bool.and_eq_true, decide_eq_true_eq] at hfound
  exact hfound.2

/-- What is held of a kind are the objects of the resource that is preferred for it. -/
theorem held_of_served (h : Mapper.byKind? cluster.resources group kind = some resource) :
    cluster.heldOf group kind = cluster.objects.filter fun object => isOf resource none object := by
  rw [heldOf, h]
  refine List.filter_congr fun object _ => ?_
  simp [isOf, kind_of_by_kind h]

/-- An object that is held names its kind. -/
theorem kind_of_held (h : object ∈ cluster.heldOf group kind) :
    object.textAt ["kind"] = kind := by
  unfold heldOf at h
  split at h
  · have hkind := (List.mem_filter.mp h).2
    simp only [decide_eq_true_eq] at hkind
    exact hkind.2
  · cases h

/-- Of a resource with namespaces, the objects in one of them are found there. -/
theorem held_in_namespace (h : Mapper.byKind? cluster.resources group kind = some resource)
    (hscope : resource.scope = .namespaced) (ns : String) :
    (cluster.heldOf group kind).filter (fun object =>
        object.textAt ["metadata", "namespace"] = ns) =
      cluster.objects.filter fun object => isOf resource (some ns) object := by
  rw [held_of_served h, List.filter_filter]
  refine List.filter_congr fun object _ => ?_
  simp [isOf, ResourceId.isNamespaced, hscope, Bool.and_comm]

/-- The object of a name is the first that has it among those of the resource; where there is none,
the answer is that it is not found. -/
theorem find_object_eq (cluster : MemoryCluster) (resource : ResourceId) (scope : Option String)
    (name : String) :
    cluster.findObject resource scope name =
      ((cluster.objects.filter fun object => isOf resource scope object).find? fun object =>
        objectName object = name).elim
      (.error (.hostStatus 404 "NotFound" (resource.name ++ " \"" ++ name ++ "\" not found")))
      .ok := by
  have hfind : (cluster.objects.filter fun object => isOf resource scope object).find?
      (fun object => objectName object = name) = cluster.objects.find? fun object =>
        isOf resource scope object && object.textAt ["metadata", "name"] = name := by
    rw [List.find?_filter]
    refine congrArg (List.find? · cluster.objects) (funext fun object => ?_)
    rw [Bool.decide_and, Bool.decide_eq_true, Bool.decide_eq_true]
    rfl
  rw [hfind]
  unfold findObject
  cases cluster.objects.find? _ <;> rfl

/-- The objects that are listed are those of the resource that the selector selects. -/
theorem select_objects_eq_filter (selector : Selector) :
    cluster.selectObjects resource scope selector =
      (cluster.objects.filter fun object => isOf resource scope object).filter fun object =>
        selector.holds object.labels := by
  rw [List.filter_filter]
  refine List.filter_congr fun object _ => ?_
  rw [Bool.and_comm]

end VirtualApi.MemoryCluster

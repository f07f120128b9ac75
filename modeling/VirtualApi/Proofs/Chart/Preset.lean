import VirtualApi.Chart.Preset
import VirtualApi.Proofs.Cluster.Memory
import VirtualApi.Proofs.Label.Structured
import VirtualApi.Proofs.Text.Sorting

/-!
# Which presets a query finds

On a cluster held in memory, the presets that a query can see are those of its namespace (`own`) and
those of the cluster (`shared`). `Found` says what comes of a query with a name and `Selected` what
comes of one without. The main theorem, `query_finds_visible_presets`, says that this is what is
loaded on a cluster that answers at once.
-/

namespace VirtualApi

namespace Preset

/-! ## Presets that can be seen -/

/-- The presets of the cluster. -/
def shared (cluster : MemoryCluster) : List Json := cluster.heldOf group clusterKind

/-- The presets of a namespace; none where no namespace is given. -/
def own (cluster : MemoryCluster) (ns : String) : List Json :=
  if ns = "" then [] else (cluster.heldOf group namespacedKind).filter fun object =>
    object.textAt ["metadata", "namespace"] = ns

/-- The preset that an object of a kind is. -/
def tagged (kind : String) (object : Json) : Preset where
  source := ⟨kind, object.textAt ["metadata", "namespace"], objectName object⟩
  values := (object.at? ["spec", "values"]).getD .null

/-- What comes of asking for a name: the preset of the namespace, or else that of the cluster, or
else an error that says that there is none. -/
inductive Found (cluster : MemoryCluster) (ns name : String) : ApiResult (List Preset) → Prop where
  | own {object : Json}
      (hown : (own cluster ns).find? (fun object => objectName object = name) = some object) :
      Found cluster ns name (.ok [tagged namespacedKind object])
  | shared {object : Json} (hown : ∀ object ∈ own cluster ns, objectName object ≠ name)
      (hshared : (shared cluster).find? (fun object => objectName object = name) = some object) :
      Found cluster ns name (.ok [tagged clusterKind object])
  | missing {e : ApiError} (hown : ∀ object ∈ own cluster ns, objectName object ≠ name)
      (hshared : ∀ object ∈ shared cluster, objectName object ≠ name) (hcode : e.code = 404) :
      Found cluster ns name (.error e)

/-- What comes of asking without a name: the presets with labels that satisfy a condition, first
those of the cluster and then those of the namespace, each in the order of their names. -/
inductive Selected (cluster : MemoryCluster) (ns : String) (selects : Labels → Prop)
    [DecidablePred selects] : List Preset → Prop where
  | intro {first second : List Json}
      (hshared : StablySorted objectName
        ((shared cluster).filter fun object => selects object.labels) first)
      (hown : StablySorted objectName
        ((own cluster ns).filter fun object => selects object.labels) second) :
      Selected cluster ns selects
        (first.map (tagged clusterKind) ++ second.map (tagged namespacedKind))

end Preset

namespace PresetQuery

/-- The selector of the query is in order, if there is one. -/
def Valid (query : PresetQuery) : Prop := ∀ s ∈ query.selector, s.Valid

/-- The selector of the query selects the labels; where there is none, all labels are selected. -/
def Selects (query : PresetQuery) (labels : Labels) : Prop :=
  ∀ s ∈ query.selector, s.Selects labels

variable {query : PresetQuery}

instance : DecidablePred query.Selects := fun labels =>
  inferInstanceAs (Decidable (∀ s ∈ query.selector, s.Selects labels))

/-- The selector of a query that is in order holds of the labels that the query selects. -/
theorem exists_selector (h : query.Valid) : ∃ selector, query.toSelector = .ok selector ∧
    ∀ labels, selector.holds labels = true ↔ query.Selects labels := by
  unfold toSelector Selects
  cases hgiven : query.selector with
  | none => exact ⟨.everything, rfl, by simp⟩
  | some s =>
      obtain ⟨selector, hselector⟩ := LabelSelector.valid_iff.mp (h s hgiven)
      refine ⟨selector, ?_, fun labels => ?_⟩
      · dsimp only
        rw [hselector]
      · rw [LabelSelector.holds_iff_selects hselector]
        simp

end PresetQuery

namespace Preset

variable {cluster : MemoryCluster} {object : Json}

/-- The kind of presets that live in a namespace is served as one that does, if it is served. -/
def ServedInNamespaces (cluster : MemoryCluster) : Prop :=
  ∀ resource, Mapper.byKind? cluster.resources group namespacedKind = some resource →
    resource.scope = .namespaced

/-- An object that is held of a kind is a preset of that kind. -/
theorem of_object_eq_tagged {kind : String} (h : object ∈ cluster.heldOf group kind) :
    ofObject object = tagged kind object := by
  rw [ofObject, tagged, MemoryCluster.kind_of_held h]

/-- A preset of a namespace is one of the kind that lives there. -/
theorem held_of_own {ns : String} (h : object ∈ own cluster ns) :
    object ∈ cluster.heldOf group namespacedKind := by
  unfold own at h
  split at h
  · cases h
  · exact (List.mem_filter.mp h).1

/-- The presets of the cluster are the objects of their resource, if there is one. -/
theorem shared_cases (cluster : MemoryCluster) :
    (Mapper.byKind? cluster.resources group clusterKind = none ∧ shared cluster = []) ∨
      ∃ resource, Mapper.byKind? cluster.resources group clusterKind = some resource ∧
        shared cluster =
          cluster.objects.filter fun object => MemoryCluster.isOf resource none object := by
  cases hresource : Mapper.byKind? cluster.resources group clusterKind with
  | none => exact .inl ⟨rfl, MemoryCluster.held_of_unserved hresource⟩
  | some resource => exact .inr ⟨resource, rfl, MemoryCluster.held_of_served hresource⟩

/-- The presets of a namespace are the objects of their resource there, if both are given. -/
theorem own_cases (hscope : ServedInNamespaces cluster) (ns : String) :
    (nonEmpty? ns = none ∧ own cluster ns = []) ∨
      nonEmpty? ns = some ns ∧
        ((Mapper.byKind? cluster.resources group namespacedKind = none ∧ own cluster ns = []) ∨
          ∃ resource, Mapper.byKind? cluster.resources group namespacedKind = some resource ∧
            own cluster ns = cluster.objects.filter fun object =>
              MemoryCluster.isOf resource (some ns) object) := by
  unfold own nonEmpty?
  by_cases hns : ns = ""
  · rw [if_pos hns, if_pos hns]
    exact .inl ⟨rfl, rfl⟩
  · rw [if_neg hns, if_neg hns]
    refine .inr ⟨rfl, ?_⟩
    cases hresource : Mapper.byKind? cluster.resources group namespacedKind with
    | none => exact .inl ⟨rfl, by rw [MemoryCluster.held_of_unserved hresource, List.filter_nil]⟩
    | some resource =>
        exact .inr
          ⟨resource, rfl, MemoryCluster.held_in_namespace hresource (hscope _ hresource) ns⟩

/-- Without objects there is nothing to sort. -/
theorem sort_by_name_nil : sortByName [] = [] := List.mergeSort_nil

/-- Of objects that are held of a kind, those that a condition selects are presets of that kind. -/
theorem map_of_object_sort {kind : String} {objects : List Json} (p : Json → Bool)
    (h : ∀ object ∈ objects, object ∈ cluster.heldOf group kind) :
    (sortByName (objects.filter p)).map ofObject =
      (sortByName (objects.filter p)).map (tagged kind) :=
  List.map_congr_left fun object hobject =>
    of_object_eq_tagged (h object (List.mem_filter.mp (List.mem_mergeSort.mp hobject)).1)

section Load

variable {ctx : RequestContext} {now : Nat} (hlatency : cluster.latency = 0)
  (hlive : ctx.abort? now = none)
include hlatency hlive

/-- The resource of a kind of presets is the one that is preferred. -/
theorem yields_resource (kind : String) :
    Action.Yields now (resource? (.memory cluster) ctx kind)
      (.ok (Mapper.byKind? cluster.resources group kind)) :=
  MemoryCluster.yields_answer hlatency hlive _ _

/-! ## By name -/

/-- Where there is no object of the name, that is no error. -/
theorem yields_get_object (resource : ResourceId) (ns name : String) :
    Action.Yields now (getObject? (.memory cluster) ctx resource ns name)
      (.ok ((cluster.objects.filter fun object =>
        MemoryCluster.isOf resource (some ns) object).find? fun object =>
          objectName object = name)) := by
  intro w hw
  obtain ⟨final, hget, hfinal⟩ := MemoryCluster.yields_answer hlatency hlive
    (.get resource (some ns) name) (cluster.findObject resource (some ns) name) w hw
  refine ⟨final, ?_, hfinal⟩
  unfold getObject?
  rw [show (Cluster.memory cluster).getObject ctx resource (some ns) name w = _ from hget,
    MemoryCluster.find_object_eq]
  cases List.find? _ _ <;> rfl

/-- The preset of a name in the namespace is the first of its presets that has the name. -/
theorem yields_in_namespace (hscope : ServedInNamespaces cluster) (ns name : String) :
    Action.Yields now (inNamespace? (.memory cluster) ctx name (nonEmpty? ns))
      (.ok ((own cluster ns).find? fun object => objectName object = name)) := by
  refine (yields_resource hlatency hlive namespacedKind).bind ?_
  rcases own_cases hscope ns with ⟨hns, hown⟩ | ⟨hns, ⟨hkind, hown⟩ | ⟨resource, hkind, hown⟩⟩
  · rw [hns, hown]
    exact .decided (.ok none)
  · rw [hns, hkind, hown]
    exact .decided (.ok none)
  · rw [hns, hkind, hown]
    exact yields_get_object hlatency hlive resource ns name

/-- The preset of a name in the cluster is the first of its presets that has the name. Where there
is none, whether or not the kind is served, the error says so. -/
theorem yields_in_cluster (name : String) : ∃ e : ApiError, e.code = 404 ∧
    Action.Yields now (inCluster (.memory cluster) ctx name)
      (((shared cluster).find? fun object => objectName object = name).elim (.error e) .ok) := by
  have hresolved := yields_resource hlatency hlive clusterKind
  rcases shared_cases cluster with ⟨hkind, hshared⟩ | ⟨resource, hkind, hshared⟩
  · rw [hkind] at hresolved
    rw [hshared]
    exact ⟨.notFound group "clusterchartpresets" name, rfl, hresolved.bind (.decided (.error _))⟩
  · rw [hkind] at hresolved
    refine ⟨.hostStatus 404 "NotFound" (resource.name ++ " \"" ++ name ++ "\" not found"), rfl, ?_⟩
    rw [hshared, ← MemoryCluster.find_object_eq]
    exact hresolved.bind (MemoryCluster.yields_answer hlatency hlive _ _)

/-- A name is looked for in the namespace first and then in the cluster. -/
theorem by_name_found (hscope : ServedInNamespaces cluster) (ns name : String) :
    ∃ result, Action.Yields now (byName (.memory cluster) ctx (nonEmpty? ns) name) result ∧
      Found cluster ns name result := by
  have hfirst := yields_in_namespace hlatency hlive hscope ns name
  cases hown : (own cluster ns).find? fun object => objectName object = name with
  | some object =>
      rw [hown] at hfirst
      have hkind := of_object_eq_tagged (held_of_own (List.mem_of_find?_eq_some hown))
      exact ⟨.ok [tagged namespacedKind object],
        hfirst.bind (hkind ▸ .decided (.ok [ofObject object])), .own hown⟩
  | none =>
      -- only now the cluster is asked, for both kinds of presets may have one of the name
      rw [hown] at hfirst
      have hnone : ∀ object ∈ own cluster ns, objectName object ≠ name := by
        simpa using List.find?_eq_none.mp hown
      obtain ⟨e, hcode, hsecond⟩ := yields_in_cluster hlatency hlive name
      cases hshared : (shared cluster).find? fun object => objectName object = name with
      | some object =>
          rw [hshared] at hsecond
          have hkind := of_object_eq_tagged (List.mem_of_find?_eq_some hshared)
          exact ⟨.ok [tagged clusterKind object],
            hfirst.bind (hsecond.bind (hkind ▸ .decided (.ok [ofObject object]))),
            .shared hnone hshared⟩
      | none =>
          rw [hshared] at hsecond
          exact ⟨.error e, hfirst.bind hsecond.bind_error,
            .missing hnone (by simpa using List.find?_eq_none.mp hshared) hcode⟩

/-! ## By selector -/

/-- The objects of a resource that a selector selects are listed in the order of their names. -/
theorem yields_selected (resource : ResourceId) (ns : Option String) (selector : Selector) :
    Action.Yields now (selected (.memory cluster) ctx resource ns selector)
      (.ok (sortByName ((cluster.objects.filter fun object =>
        MemoryCluster.isOf resource ns object).filter fun object =>
          selector.holds object.labels))) := by
  rw [← MemoryCluster.select_objects_eq_filter]
  exact (MemoryCluster.yields_answer hlatency hlive _ _).bind (.decided (.ok _))

/-- The presets of the cluster are those that the selector selects. -/
theorem yields_selected_in_cluster (selector : Selector) :
    Action.Yields now (selectedInCluster (.memory cluster) ctx selector)
      (.ok (sortByName ((shared cluster).filter fun object => selector.holds object.labels))) := by
  refine (yields_resource hlatency hlive clusterKind).bind ?_
  rcases shared_cases cluster with ⟨hkind, hshared⟩ | ⟨resource, hkind, hshared⟩
  · rw [hkind, hshared, List.filter_nil, sort_by_name_nil]
    exact .decided (.ok [])
  · rw [hkind, hshared]
    exact yields_selected hlatency hlive resource none selector

/-- The presets of the namespace are those that the selector selects. -/
theorem yields_selected_in_namespace (hscope : ServedInNamespaces cluster) (ns : String)
    (selector : Selector) :
    Action.Yields now (selectedInNamespace (.memory cluster) ctx selector (nonEmpty? ns))
      (.ok (sortByName ((own cluster ns).filter fun object => selector.holds object.labels))) := by
  refine (yields_resource hlatency hlive namespacedKind).bind ?_
  rcases own_cases hscope ns with ⟨hns, hown⟩ | ⟨hns, ⟨hkind, hown⟩ | ⟨resource, hkind, hown⟩⟩
  · rw [hns, hown, List.filter_nil, sort_by_name_nil]
    exact .decided (.ok [])
  · rw [hns, hkind, hown, List.filter_nil, sort_by_name_nil]
    exact .decided (.ok [])
  · rw [hns, hkind, hown]
    exact yields_selected hlatency hlive resource (some ns) selector

/-- The presets that a selector selects are those of the cluster and then those of the namespace. -/
theorem by_selector_selected (hscope : ServedInNamespaces cluster) (ns : String)
    {selector : Selector} {selects : Labels → Prop} [DecidablePred selects]
    (hselects : ∀ labels, selector.holds labels = true ↔ selects labels) :
    ∃ presets, Action.Yields now (bySelector (.memory cluster) ctx (nonEmpty? ns) selector)
        (.ok presets) ∧ Selected cluster ns selects presets := by
  -- the condition as the selector decides it is the one that the query states
  have hholds : (fun object : Json => selector.holds object.labels) =
      fun object => decide (selects object.labels) :=
    funext fun object => by rw [Bool.eq_iff_iff, hselects, decide_eq_true_iff]
  have hfirst := yields_selected_in_cluster hlatency hlive selector
  have hsecond := yields_selected_in_namespace hlatency hlive hscope ns selector
  rw [hholds] at hfirst hsecond
  let first := sortByName ((shared cluster).filter fun object => selects object.labels)
  let second := sortByName ((own cluster ns).filter fun object => selects object.labels)
  have hfirstTagged : first.map ofObject = first.map (tagged clusterKind) :=
    map_of_object_sort _ fun _ => id
  have hsecondTagged : second.map ofObject = second.map (tagged namespacedKind) :=
    map_of_object_sort _ fun _ => held_of_own
  refine ⟨(first ++ second).map ofObject, hfirst.bind (hsecond.bind (.decided (.ok _))), ?_⟩
  rw [List.map_append, hfirstTagged, hsecondTagged]
  exact .intro (stablySorted_mergeSort objectName _) (stablySorted_mergeSort objectName _)

end Load

/-- On a cluster that answers at once and serves the presets of a namespace, if at all, as objects
of one, a request that still runs is answered by the presets that can be seen. A query with a name
finds the one of that name, that of the namespace before that of the cluster; a query without one
finds all that its selector selects. -/
theorem query_finds_visible_presets (cluster : MemoryCluster) (hlatency : cluster.latency = 0)
    (hscope : ServedInNamespaces cluster) (ctx : RequestContext) (w : World)
    (hlive : ctx.abort? w.now = none) (query : PresetQuery) :
    (query.name ≠ "" →
        Found cluster query.namespaceName query.name (load (.memory cluster) ctx query w).1) ∧
      (query.name = "" → query.Valid → ∃ presets,
        (load (.memory cluster) ctx query w).1 = .ok presets ∧
          Selected cluster query.namespaceName query.Selects presets) := by
  constructor
  · intro hname
    obtain ⟨result, hyields, hfound⟩ :=
      by_name_found hlatency hlive hscope query.namespaceName query.name
    obtain ⟨final, hresult, -⟩ := hyields w rfl
    have hload : load (.memory cluster) ctx query =
        byName (.memory cluster) ctx (nonEmpty? query.namespaceName) query.name := by
      unfold load
      rw [show nonEmpty? query.name = some query.name from if_neg hname]
    rwa [hload, hresult]
  · intro hname hvalid
    obtain ⟨selector, hselector, hselects⟩ := PresetQuery.exists_selector hvalid
    obtain ⟨presets, hyields, hselected⟩ :=
      by_selector_selected hlatency hlive hscope query.namespaceName hselects
    obtain ⟨final, hresult, -⟩ := hyields w rfl
    have hload : load (.memory cluster) ctx query =
        bySelector (.memory cluster) ctx (nonEmpty? query.namespaceName) selector := by
      unfold load
      rw [show nonEmpty? query.name = none from if_pos hname, hselector]
      rfl
    exact ⟨presets, by rw [hload, hresult], hselected⟩

/-! ## Presets of a shop -/

/-- A preset with one label, in a namespace or in the cluster. -/
def presetObject (kind : String) (ns : Option String) (name tier : String) : Json :=
  .object [("apiVersion", .str "charts.x-helm.dev/v1"), ("kind", .str kind),
    ("metadata", .object ([("name", .str name), ("labels", .object [("tier", .str tier)])] ++
      Json.field? "namespace" Json.str ns)),
    ("spec", .object [("values", .object [("replicas", .nat 2)])])]

/-- A cluster that serves both kinds of presets and holds some of each. -/
def presetShop : MemoryCluster where
  resources := [⟨group, "v1", "chartpresets", namespacedKind, .namespaced⟩,
    ⟨group, "v1", "clusterchartpresets", clusterKind, .cluster⟩]
  objects := [presetObject clusterKind none "small" "gold",
    presetObject clusterKind none "base" "gold", presetObject clusterKind none "spare" "tin",
    presetObject namespacedKind (some "test") "tiny" "gold",
    presetObject namespacedKind (some "shop") "small" "gold"]

/-- A query for the presets with one label. -/
def goldQuery : PresetQuery where
  namespaceName := "shop"
  selector := some ⟨some [("tier", "gold")], none⟩

/-- In the shop the name `small` finds the preset of the namespace. All that are labelled as gold
are found with those of the cluster first. -/
theorem shop_presets_are_found :
    presetShop.latency = 0 ∧ ServedInNamespaces presetShop ∧ RequestContext.abort? {} 0 = none ∧
      goldQuery.Valid ∧
      (load (.memory presetShop) {} { namespaceName := "shop", name := "small" } {}).1 =
        .ok [⟨⟨namespacedKind, "shop", "small"⟩, .object [("replicas", .nat 2)]⟩] ∧
      (load (.memory presetShop) {} goldQuery {}).1 =
        .ok [⟨⟨clusterKind, "", "base"⟩, .object [("replicas", .nat 2)]⟩,
          ⟨⟨clusterKind, "", "small"⟩, .object [("replicas", .nat 2)]⟩,
          ⟨⟨namespacedKind, "shop", "small"⟩, .object [("replicas", .nat 2)]⟩] := by
  have hscope : ServedInNamespaces presetShop := by
    intro resource hresource
    cases hresource
    rfl
  have hvalid : goldQuery.Valid := by
    rintro s ⟨rfl⟩
    exact ⟨by decide, nofun⟩
  refine ⟨rfl, hscope, rfl, hvalid, ?_, ?_⟩
  · have hfound := (query_finds_visible_presets presetShop rfl hscope {} {} rfl
      { namespaceName := "shop", name := "small" }).1 (by decide)
    have hown : (own presetShop "shop").find? (fun object => objectName object = "small") =
        some (presetObject namespacedKind (some "shop") "small" "gold") := by decide
    have hmem := List.mem_of_find?_eq_some hown
    have hname : objectName (presetObject namespacedKind (some "shop") "small" "gold") = "small" :=
      rfl
    generalize (load _ _ _ _).1 = result at hfound ⊢
    cases hfound with
    | own hother =>
        cases hown.symm.trans hother
        rfl
    | shared hnone => exact absurd hname (hnone _ hmem)
    | missing hnone => exact absurd hname (hnone _ hmem)
  · obtain ⟨presets, hload, hselected⟩ := (query_finds_visible_presets presetShop rfl hscope {} {}
      rfl goldQuery).2 rfl hvalid
    have hshared : StablySorted objectName
        ((shared presetShop).filter fun object => goldQuery.Selects object.labels)
        [presetObject clusterKind none "base" "gold",
          presetObject clusterKind none "small" "gold"] := by
      rw [show (shared presetShop).filter (fun object => goldQuery.Selects object.labels) =
        [presetObject clusterKind none "small" "gold",
          presetObject clusterKind none "base" "gold"] by decide]
      exact .of_perm (by decide) (.swap ..) (by decide)
    have hown : StablySorted objectName
        ((own presetShop "shop").filter fun object => goldQuery.Selects object.labels)
        [presetObject namespacedKind (some "shop") "small" "gold"] := by
      rw [show (own presetShop "shop").filter (fun object => goldQuery.Selects object.labels) =
        [presetObject namespacedKind (some "shop") "small" "gold"] by decide]
      exact .of_ordered (List.pairwise_singleton ..)
    rw [hload]
    cases hselected with
    | intro hfirst hsecond =>
        rw [hfirst.unique hshared, hsecond.unique hown]
        rfl

end Preset

end VirtualApi

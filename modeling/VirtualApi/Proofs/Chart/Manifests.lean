import VirtualApi.Chart.Manifests
import VirtualApi.Proofs.Cluster.Host
import VirtualApi.Proofs.Json.Entries
import VirtualApi.Proofs.Text.Split

/-!
# Which objects a manifests response holds

The objects that were loaded are stored under their ids, so that of several with one id only the
last stays (`get_of_objects`). An id is made of what an object says of its group, kind, namespace
and name, and without commas in these it tells them apart (`ObjectIdentity.object_id_injective`);
then no object is lost exactly when those that agree in all four are the same
(`manifests_lose_nothing_iff`). The items of a list say neither group nor kind, and such objects do
collide (`untyped_items_collide`).
-/

namespace VirtualApi

/-! ## Ids -/

/-- What the id of an object is made of. -/
structure ObjectIdentity where
  group : String
  kind : String
  namespaceName : String
  name : String
deriving DecidableEq, Repr

namespace ObjectIdentity

/-- What an object says of itself; nothing of its kind unless it says all of it. -/
def ofObject (object : Json) : ObjectIdentity where
  group := ((GroupVersionKind.ofObject? object).getD {}).group
  kind := ((GroupVersionKind.ofObject? object).getD {}).kind
  namespaceName := object.textAt ["metadata", "namespace"]
  name := objectName object

/-- The parts of an id, which stand between commas. -/
def parts (identity : ObjectIdentity) : List String :=
  ["G=" ++ identity.group, "K=" ++ identity.kind, "NS=" ++ identity.namespaceName,
    "N=" ++ identity.name]

/-- No text in it has a comma. -/
def Plain (identity : ObjectIdentity) : Prop :=
  ',' ∉ identity.group.toList ∧ ',' ∉ identity.kind.toList ∧
    ',' ∉ identity.namespaceName.toList ∧ ',' ∉ identity.name.toList

instance (identity : ObjectIdentity) : Decidable identity.Plain :=
  inferInstanceAs (Decidable (_ ∧ _ ∧ _ ∧ _))

/-- An id is its parts with commas between them. -/
theorem object_id_eq (object : Json) : objectId object = Text.join "," (ofObject object).parts := by
  rw [← String.toList_inj]
  simp [objectId, ofObject, parts, Text.join, Text.joinWith]

/-- Without commas in the texts, the parts are found again in the id. -/
theorem split_on_id {identity : ObjectIdentity} (h : identity.Plain) :
    Text.splitOn ',' (Text.join "," identity.parts).toList = identity.parts.map String.toList := by
  obtain ⟨hgroup, hkind, hnamespace, hname⟩ := h
  rw [Text.join, String.toList_ofList]
  refine Text.split_on_join_with (List.cons_ne_nil _ _) fun part hpart => ?_
  simp only [parts, List.map_cons, List.map_nil, List.mem_cons, List.not_mem_nil, or_false,
    String.toList_append] at hpart
  rcases hpart with rfl | rfl | rfl | rfl <;>
    simp only [List.mem_append, hgroup, hkind, hnamespace, hname, or_false] <;> decide

/-- The parts say what they are made of. -/
theorem parts_injective {first second : ObjectIdentity} (h : first.parts = second.parts) :
    first = second := by
  cases first
  cases second
  simpa [parts] using h

/-- Without commas in the texts, ids tell apart what they are made of. -/
theorem object_id_injective {first second : Json} (hfirst : (ofObject first).Plain)
    (hsecond : (ofObject second).Plain) (h : objectId first = objectId second) :
    ofObject first = ofObject second := by
  refine parts_injective (List.map_injective_iff.mpr (fun _ _ => String.toList_inj.mp) ?_)
  rw [← split_on_id hfirst, ← split_on_id hsecond, ← object_id_eq, ← object_id_eq, h]

end ObjectIdentity

/-! ## The response -/

section Response

variable {registry : ChartRegistry} {cluster : Cluster} {ctx : RequestContext}
  {request : ManifestsRequest} {objects : List Json} {w later : World}

/-- Under an id stands the last of the objects that have it. -/
theorem ManifestsResponse.get_of_objects (objects : List Json) (id : String) :
    (ManifestsResponse.ofObjects objects).objects.get? id =
      objects.reverse.find? fun object => objectId object = id := by
  unfold ManifestsResponse.ofObjects
  rw [Entries.get_of_list_eq_find, ← List.map_reverse, List.find?_map, Option.map_map]
  exact congrFun Option.map_id _

/-- What is stored under an id is one of the objects, and has that id. -/
theorem ManifestsResponse.of_get {id : String} {object : Json}
    (h : (ManifestsResponse.ofObjects objects).objects.get? id = some object) :
    object ∈ objects ∧ objectId object = id := by
  rw [get_of_objects] at h
  exact ⟨List.mem_reverse.mp (List.mem_of_find?_eq_some h), by simpa using List.find?_some h⟩

/-- No object is lost exactly when objects with the same id are the same. -/
theorem ManifestsResponse.holds_all_iff (objects : List Json) :
    (∀ object ∈ objects, ∃ id, (ofObjects objects).objects.get? id = some object) ↔
      ∀ first ∈ objects, ∀ second ∈ objects, objectId first = objectId second → first = second := by
  constructor
  · intro h first hfirst second hsecond hid
    obtain ⟨id, hget⟩ := h first hfirst
    obtain ⟨other, hother⟩ := h second hsecond
    have heq : id = other := by rw [← (of_get hget).2, ← (of_get hother).2, hid]
    rw [heq] at hget
    exact Option.some.inj (hget.symm.trans hother)
  · intro h object hobject
    refine ⟨objectId object, ?_⟩
    -- there is an object with this id, and the last one that has it is the object itself
    have hsome : (objects.reverse.find? fun o => objectId o = objectId object).isSome := by
      rw [List.find?_isSome]
      exact ⟨object, List.mem_reverse.mpr hobject, decide_eq_true rfl⟩
    obtain ⟨last, hlast⟩ := Option.isSome_iff_exists.mp hsome
    rw [← get_of_objects] at hlast
    obtain ⟨hmem, hid⟩ := of_get hlast
    rw [hlast, h last hmem object hobject hid]

/-- Once the objects are loaded, the response is made of them. -/
theorem load_manifests_of_load
    (hload : ChartEditor.load registry cluster ctx request.model w = (.ok objects, later)) :
    loadManifests registry cluster ctx request w = (.ok (.ofObjects objects), later) :=
  Action.bind_eq_ok_iff.mpr ⟨objects, later, hload, rfl⟩

/-- Once the objects are loaded, the response holds the last object under every id. When no text of
their ids has a comma, it holds all of them exactly when those that agree in group, kind, namespace
and name are the same. -/
theorem manifests_lose_nothing_iff
    (hload : ChartEditor.load registry cluster ctx request.model w = (.ok objects, later))
    (hplain : ∀ object ∈ objects, (ObjectIdentity.ofObject object).Plain) :
    ∃ response, loadManifests registry cluster ctx request w = (.ok response, later) ∧
      (∀ id, response.objects.get? id = objects.reverse.find? fun o => objectId o = id) ∧
      ((∀ object ∈ objects, ∃ id, response.objects.get? id = some object) ↔
        ∀ first ∈ objects, ∀ second ∈ objects,
          ObjectIdentity.ofObject first = ObjectIdentity.ofObject second → first = second) := by
  refine ⟨.ofObjects objects, load_manifests_of_load hload,
    ManifestsResponse.get_of_objects objects, ?_⟩
  rw [ManifestsResponse.holds_all_iff]
  constructor
  · intro h first hfirst second hsecond hsame
    refine h first hfirst second hsecond ?_
    rw [ObjectIdentity.object_id_eq, ObjectIdentity.object_id_eq, hsame]
  · intro h first hfirst second hsecond hid
    exact h first hfirst second hsecond
      (ObjectIdentity.object_id_injective (hplain first hfirst) (hplain second hsecond) hid)

end Response

/-! ## Objects that do not say their kind

A host cluster gives the items of a list without group and kind. Three objects are all named `web`:
a deployment, and the service and the config map that belong to it.
-/

namespace WebShop

/-- An object as the item of a list shows it. -/
def item (uid : String) : Json :=
  .object [("metadata",
    .object [("name", .str "web"), ("namespace", .str "shop"), ("uid", .str uid)])]

/-- The deployment, which is asked for by its name and says its kind. -/
def deployment : Json :=
  ((item "deployment").set "apiVersion" (.str "apps/v1")).set "kind" (.str "Deployment")

/-- What is loaded. -/
def objects : List Json := [deployment, item "service", item "configmap"]

/-- An object as text, with other fields before its metadata. -/
def text (fields uid : String) : String :=
  "\x7b" ++ fields ++ "\"metadata\":\x7b\"name\":\"web\",\"namespace\":\"shop\",\"uid\":\"" ++
    uid ++ "\"\x7d\x7d"

/-- A list of one item as text. -/
def listText (uid : String) : String :=
  "\x7b\"metadata\":\x7b\x7d,\"items\":[" ++ text "" uid ++ "]\x7d"

/-- What the cluster replies. -/
def transport : Transport := .ofReplies
  [("GET /apis/apps/v1/namespaces/shop/deployments/web",
      { text := text "\"apiVersion\":\"apps/v1\",\"kind\":\"Deployment\"," "deployment" }),
    ("GET /api/v1/namespaces/shop/services?&labelSelector=app.kubernetes.io%2Finstance%3Dweb",
      { text := listText "service" }),
    ("GET /api/v1/namespaces/shop/configmaps?&labelSelector=app.kubernetes.io%2Finstance%3Dweb",
      { text := listText "configmap" })]

/-- The resources that are served. -/
def deployments : ResourceId := ⟨"apps", "v1", "deployments", "Deployment", .namespaced⟩

@[inherit_doc deployments]
def services : ResourceId := ⟨"", "v1", "services", "Service", .namespaced⟩

@[inherit_doc deployments]
def configMaps : ResourceId := ⟨"", "v1", "configmaps", "ConfigMap", .namespaced⟩

/-- The kinds are known, and a chart for deployments is kept. -/
def world : World where
  kinds := some { resources := [deployments, services, configMaps] }
  charts := [("apps/deployment.yaml", ⟨"web", deployments.gvk, [services.gvk, configMaps.gvk]⟩)]

/-- The manifests of the deployment are asked for. -/
def request : ManifestsRequest := ⟨"apps", "v1", "Deployment", "web", "shop"⟩

/-- Metadata as it is written. -/
def rawMeta (uid : String) : RawJson :=
  .obj [(some "name", .str (some "web")), (some "namespace", .str (some "shop")),
    (some "uid", .str (some uid))]

theorem read_metadata (uid : String) (room : Nat) :
    ObjectMeta.shape.reader ObjectMeta.ofJson? (room + 1) (rawMeta uid) =
      some { name := some "web", namespaceName := some "shop", uid := some uid } := by
  have hraw : ObjectMeta.shape.ofRaw? (room + 1) (rawMeta uid) =
      some (.object [("name", .str "web"), ("namespace", .str "shop"), ("uid", .str uid)]) := by
    rw [rawMeta, ObjectMeta.shape, Shape.ofRaw?]
    simp [Shape.optionalFields, List.lookup_cons, Shape.ofRaw?]
  rw [Shape.reader, hraw]
  rfl

theorem read_deployment (room : Nat) :
    Dynamic.object? (room + 2) (.obj [(some "apiVersion", .str (some "apps/v1")),
      (some "kind", .str (some "Deployment")), (some "metadata", rawMeta "deployment")]) =
        some deployment := by
  have hobject : Dynamic.object? (room + 2) (.obj [(some "apiVersion", .str (some "apps/v1")),
      (some "kind", .str (some "Deployment")), (some "metadata", rawMeta "deployment")]) =
      (ObjectMeta.shape.reader ObjectMeta.ofJson? (room + 1) (rawMeta "deployment")).bind
        fun metadata => some (.object [("kind", .str "Deployment"), ("apiVersion", .str "apps/v1"),
          ("metadata", metadata.toJson)]) := rfl
  rw [hobject, read_metadata]
  rfl

theorem read_item (uid : String) (room : Nat) :
    Dynamic.object? (room + 2) (.obj [(some "metadata", rawMeta uid)]) = some (item uid) := by
  have hobject : Dynamic.object? (room + 2) (.obj [(some "metadata", rawMeta uid)]) =
      (ObjectMeta.shape.reader ObjectMeta.ofJson? (room + 1) (rawMeta uid)).bind
        fun metadata => some (.object [("metadata", metadata.toJson)]) := rfl
  rw [hobject, read_metadata]
  rfl

theorem read_items (uid : String) (room : Nat) :
    Dynamic.items? Dynamic.object? (room + 4) (.obj [(some "metadata", .obj []),
      (some "items", .arr [.obj [(some "metadata", rawMeta uid)]])]) = some [item uid] := by
  have hmeta : Dynamic.listMeta.shape.ofRaw? (room + 3) (.obj []) = some (.object []) := by
    rw [Dynamic.listMeta, Schema.shape, Shape.ofRaw?]
    rfl
  have hitems : Dynamic.items? Dynamic.object? (room + 4) (.obj [(some "metadata", .obj []),
      (some "items", .arr [.obj [(some "metadata", rawMeta uid)]])]) =
      (Dynamic.listMeta.shape.ofRaw? (room + 3) (.obj [])).bind fun _ =>
        [RawJson.obj [(some "metadata", rawMeta uid)]].mapM (Dynamic.object? (room + 2)) := rfl
  rw [hitems, hmeta, Option.bind_some, List.mapM_cons, read_item]
  rfl

set_option maxRecDepth 2000 in
theorem read_texts :
    RawJson.ofText? (text "\"apiVersion\":\"apps/v1\",\"kind\":\"Deployment\","
      "deployment").toList = some (.obj [(some "apiVersion", .str (some "apps/v1")),
        (some "kind", .str (some "Deployment")), (some "metadata", rawMeta "deployment")]) ∧
    RawJson.ofText? (listText "service").toList = some (.obj [(some "metadata", .obj []),
      (some "items", .arr [.obj [(some "metadata", rawMeta "service")]])]) ∧
    RawJson.ofText? (listText "configmap").toList = some (.obj [(some "metadata", .obj []),
      (some "items", .arr [.obj [(some "metadata", rawMeta "configmap")]])]) := ⟨rfl, rfl, rfl⟩

/-- The selector of what belongs to the deployment. -/
def selector : Selector :=
  Selector.everything.push ⟨ChartEditor.instanceLabel, .equals, ["web"]⟩

/-- The deployment is found under its name. -/
theorem get_deployment (w : World) : ∃ later : World, later.served = w.served ∧
    Cluster.getObject (.host transport) {} deployments (some "shop") "web" w =
      (.ok deployment, later) := by
  have hreply : transport "GET" "/apis/apps/v1/namespaces/shop/deployments/web" =
      { text := text "\"apiVersion\":\"apps/v1\",\"kind\":\"Deployment\"," "deployment" } := by
    decide +kernel
  have hread : Transport.readReply Dynamic.object?
      (transport "GET" "/apis/apps/v1/namespaces/shop/deployments/web") = .ok deployment := by
    rw [hreply]
    refine HostCluster.read_reply_eq_ok (by decide) ?_
    rw [RawReader.ofText?, read_texts.1, Option.bind_some, RawJson.maxLevels, read_deployment]
  have hask : HostCluster.ask transport {}
      (HostCluster.resourcePath deployments (some "shop") ++ "/" ++ "web") Dynamic.object? w =
        (.ok deployment, HostCluster.replied transport
          "/apis/apps/v1/namespaces/shop/deployments/web" w) :=
    HostCluster.ask_of_reply (by decide +kernel) hread rfl
  exact ⟨HostCluster.replied transport _ w, rfl,
    Action.bind_eq_ok_iff.mpr ⟨deployment, _, hask, rfl⟩⟩

/-- The component of a kind is the one item of its list. -/
theorem load_item (resource : ResourceId) (uri : String) {uid : String} {w : World}
    (hresolve : Cluster.resolve (.host transport) {} resource.gvk w = (.ok resource, w))
    (huri : Uri.ofText (HostCluster.resourcePath resource (some "shop") ++ Uri.listQuery selector) =
      .ok uri)
    (hreply : transport "GET" uri = { text := listText uid })
    (hraw : RawJson.ofText? (listText uid).toList = some (.obj [(some "metadata", .obj []),
      (some "items", .arr [.obj [(some "metadata", rawMeta uid)]])])) :
    ∃ later : World, later.served = w.served ∧
      ChartEditor.loadComponent (.host transport) {} (some "shop") selector resource.gvk w =
        (.ok [item uid], later) := by
  have hread : Transport.readReply (Dynamic.items? Dynamic.object?) (transport "GET" uri) =
      .ok [item uid] := by
    rw [hreply]
    refine HostCluster.read_reply_eq_ok (Nat.lt_of_sub_eq_succ rfl) ?_
    rw [RawReader.ofText?, hraw, Option.bind_some, RawJson.maxLevels, read_items]
  have hlive : RequestContext.abort? {} (w.now + (transport "GET" uri).latency) = none := rfl
  have hlist : Cluster.listObjects (.host transport) {} resource (some "shop") selector w =
      (.ok [item uid], HostCluster.replied transport uri w) :=
    Action.bind_eq_ok_iff.mpr ⟨[item uid], _, HostCluster.ask_of_reply huri hread hlive, rfl⟩
  have hserved : ChartEditor.componentResource? (.host transport) {} resource.gvk w =
      (.ok (some resource), w) := by
    simp only [ChartEditor.componentResource?, hresolve]
  refine ⟨HostCluster.replied transport uri w, rfl, ?_⟩
  refine Action.bind_eq_ok_iff.mpr ⟨some resource, w, hserved, ?_⟩
  refine Action.bind_eq_ok_iff.mpr ⟨[item uid], _, hlist, ?_⟩
  rw [sortByName, List.mergeSort_singleton]
  rfl

/-- A resource that is served is found. -/
theorem resolve_served {resource : ResourceId} {w : World} (hserved : w.served = world.served)
    (hmem : resource ∈ [deployments, services, configMaps]) :
    Cluster.resolve (.host transport) {} resource.gvk w = (.ok resource, w) := by
  refine HostCluster.resolve_of_known ?_
  rw [Mapper.known, hserved]
  revert resource
  decide

/-- The three objects are loaded. -/
theorem load_objects : ∃ later : World,
    ChartEditor.load ⟨"charts"⟩ (.host transport) {} request.model world =
      (.ok objects, later) := by
  obtain ⟨first, hfirst, hdeployment⟩ := get_deployment world
  obtain ⟨second, hsecond, hservice⟩ := load_item services
    "/api/v1/namespaces/shop/services?&labelSelector=app.kubernetes.io%2Finstance%3Dweb"
    (resolve_served hfirst (by decide)) (by decide +kernel) (by decide +kernel) read_texts.2.1
  obtain ⟨third, -, hconfigMap⟩ := load_item configMaps
    "/api/v1/namespaces/shop/configmaps?&labelSelector=app.kubernetes.io%2Finstance%3Dweb"
    (resolve_served (hsecond.trans hfirst) (by decide)) (by decide +kernel) (by decide +kernel)
    read_texts.2.2
  have hcomponents : ChartEditor.loadComponents (.host transport) {} (some "shop") selector
      [services.gvk, configMaps.gvk] first = (.ok [item "service", item "configmap"], third) := by
    refine Action.bind_eq_ok_iff.mpr ⟨_, second, hservice, ?_⟩
    refine Action.bind_eq_ok_iff.mpr ⟨[item "configmap"], third, ?_, rfl⟩
    exact Action.bind_eq_ok_iff.mpr ⟨_, third, hconfigMap, rfl⟩
  have hchart : (ChartRegistry.mk "charts").chartFor "apps" "Deployment" world =
      (.ok ⟨"web", deployments.gvk, [services.gvk, configMaps.gvk]⟩, world) := rfl
  have hresolve : Cluster.resolve (.host transport) {} deployments.gvk world =
      (.ok deployments, world) := resolve_served rfl (by decide)
  refine ⟨third, ?_⟩
  refine Action.bind_eq_ok_iff.mpr ⟨_, world, hchart, ?_⟩
  refine Action.bind_eq_ok_iff.mpr ⟨deployments, world, hresolve, ?_⟩
  refine Action.bind_eq_ok_iff.mpr ⟨deployment, first, hdeployment, ?_⟩
  refine Action.bind_eq_ok_iff.mpr ⟨⟨ChartEditor.instanceLabel, .equals, ["web"]⟩, first, rfl, ?_⟩
  exact Action.bind_eq_ok_iff.mpr ⟨_, third, hcomponents, rfl⟩

/-- The service and the config map have one id, though they are different objects. -/
theorem same_identity : ObjectIdentity.ofObject (item "service") =
    ObjectIdentity.ofObject (item "configmap") ∧ item "service" ≠ item "configmap" := by
  decide

end WebShop

/-- The service and the config map named `web` agree in what their ids are made of, so that not all
of the three objects are in the response. -/
theorem web_objects_not_all_held :
    ∃ later : World,
      ChartEditor.load ⟨"charts"⟩ (.host WebShop.transport) {} WebShop.request.model WebShop.world =
          (.ok WebShop.objects, later) ∧
        (∀ object ∈ WebShop.objects, (ObjectIdentity.ofObject object).Plain) ∧
          ∃ response, loadManifests ⟨"charts"⟩ (.host WebShop.transport) {} WebShop.request
              WebShop.world = (.ok response, later) ∧
            ¬∀ object ∈ WebShop.objects, ∃ id, response.objects.get? id = some object := by
  obtain ⟨later, hload⟩ := WebShop.load_objects
  have hplain : ∀ object ∈ WebShop.objects, (ObjectIdentity.ofObject object).Plain := by decide
  obtain ⟨response, hresponse, -, hiff⟩ := manifests_lose_nothing_iff hload hplain
  refine ⟨later, hload, hplain, response, hresponse, fun hall => ?_⟩
  obtain ⟨hsame, hne⟩ := WebShop.same_identity
  exact hne (hiff.mp hall _ (by simp [WebShop.objects]) _ (by simp [WebShop.objects]) hsame)

/-- The response can lose an object that was loaded: items of different lists do not say their kind,
and those of one name get one id. -/
theorem untyped_items_collide :
    ¬∀ (registry : ChartRegistry) (cluster : Cluster) (ctx : RequestContext)
        (request : ManifestsRequest) (w later final : World) (objects : List Json)
        (response : ManifestsResponse),
      ChartEditor.load registry cluster ctx request.model w = (.ok objects, later) →
        loadManifests registry cluster ctx request w = (.ok response, final) →
          ∀ object ∈ objects, ∃ id, response.objects.get? id = some object := by
  intro hclaim
  obtain ⟨later, hload⟩ := WebShop.load_objects
  have hall := (ManifestsResponse.holds_all_iff WebShop.objects).mp
    (hclaim _ _ _ _ _ _ _ _ _ hload (load_manifests_of_load hload))
  obtain ⟨hsame, hne⟩ := WebShop.same_identity
  refine hne (hall _ (by simp [WebShop.objects]) _ (by simp [WebShop.objects]) ?_)
  rw [ObjectIdentity.object_id_eq, ObjectIdentity.object_id_eq, hsame]

end VirtualApi

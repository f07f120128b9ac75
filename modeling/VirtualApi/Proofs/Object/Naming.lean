import VirtualApi.Proofs.Chart.Rendered
import VirtualApi.Proofs.Cluster.Gateway

/-!
# Names that no label can have

What belongs to a gateway class, or to the object that an editor is opened on, is found by a label
that has the name of that object as its value. A cluster gives its objects names that are longer
than the value of a label may be, and such an object is refused by its name although it is there
(`long_names_are_refused`). The main theorem, `existing_objects_answered_by_name`, says that this is
all that keeps an object that exists from being answered for.
-/

namespace VirtualApi

/-- What comes of asking for an object that exists: an answer where a label can have its name as its
value, and otherwise a refusal that says which name it is. -/
structure AnsweredByName {α : Type} (name : String) (result : ApiResult α) : Prop where
  answered : Label.validValue name.toList = true → ∃ a, result = .ok a
  refused : Label.validValue name.toList = false →
    result = .error (.badRequest ("invalid label value " ++ Text.quoted name))

/-- A gateway class that a cluster holds is answered for by its name. -/
theorem GatewayInfo.get_answered_by_name {cluster : MemoryCluster} {ctx : RequestContext}
    {w : World} {cls : Json} (hlive : ctx.abort? (w.now + 3 * cluster.latency) = none)
    (hcls : cls ∈ cluster.heldOf group "GatewayClass") :
    AnsweredByName (objectName cls) (get (.memory cluster) ctx (objectName cls) w).1 := by
  -- of several classes with the name the first is the one that is found
  obtain ⟨first, hfirst⟩ : ∃ first, (cluster.heldOf group "GatewayClass").find?
      (fun object => objectName object = objectName cls) = some first :=
    Option.isSome_iff_exists.mp (List.find?_isSome.mpr ⟨cls, hcls, decide_eq_true rfl⟩)
  obtain ⟨resource, hserved, hfound⟩ := exists_served_of_held hfirst
  refine ⟨fun hname => ⟨_, congrArg (·.1) (get_of_valid hserved hfound hlive hname)⟩, ?_⟩
  intro hname
  have hsoon : ctx.abort? (w.now + 2 * cluster.latency) = none :=
    RequestContext.abort_eq_none_of_le (by omega) hlive
  exact congrArg (·.1) (get_of_invalid hserved hfound hsoon hname)

/-- An object that exists is opened by its name. -/
theorem ChartEditor.load_answered_by_name {registry : ChartRegistry} {cluster : MemoryCluster}
    {ctx : RequestContext} {w : World} {model : EditedModel} {chart : EditorChart}
    {resource : ResourceId} {object : Json}
    (hlive : ctx.abort? (w.now + loadTime cluster chart) = none)
    (hchart : registry.Available w model.resource.group model.resource.kind chart)
    (hserved : cluster.served? model.resource = some resource) (hobject : object ∈ cluster.objects)
    (hnames : model.Names resource.scope object) :
    AnsweredByName model.name (load registry (.memory cluster) ctx model w).1 := by
  obtain ⟨primary, hprimary⟩ : ∃ primary,
      cluster.objects.find? (fun object => model.Names resource.scope object) = some primary :=
    Option.isSome_iff_exists.mp (List.find?_isSome.mpr ⟨object, hobject, decide_eq_true hnames⟩)
  constructor
  · intro hname
    obtain ⟨objects, final, hload, -⟩ := load_in_time hchart hserved hprimary hlive hname
    exact ⟨objects, congrArg (·.1) hload⟩
  · have hsoon : ctx.abort? (w.now + 2 * cluster.latency) = none := by
      refine RequestContext.abort_eq_none_of_le ?_ hlive
      unfold loadTime
      omega
    exact load_of_invalid hchart hserved hprimary hsoon

/-- On a cluster held in memory, a request that runs long enough is answered for every gateway class
that the cluster holds, and for every object that an editor is opened on and that has a chart, as
long as a label can have its name as its value; otherwise the name is refused. -/
theorem existing_objects_answered_by_name (cluster : MemoryCluster) (ctx : RequestContext)
    (w : World) :
    (∀ cls ∈ cluster.heldOf GatewayInfo.group "GatewayClass",
        ctx.abort? (w.now + 3 * cluster.latency) = none →
        AnsweredByName (objectName cls)
          (GatewayInfo.get (.memory cluster) ctx (objectName cls) w).1) ∧
      ∀ (registry : ChartRegistry) (model : EditedModel) (chart : EditorChart)
        (resource : ResourceId),
        registry.Available w model.resource.group model.resource.kind chart →
        cluster.served? model.resource = some resource →
        (∃ object ∈ cluster.objects, model.Names resource.scope object) →
        ctx.abort? (w.now + ChartEditor.loadTime cluster chart) = none →
        AnsweredByName model.name (ChartEditor.load registry (.memory cluster) ctx model w).1 := by
  refine ⟨fun cls hcls hlive => GatewayInfo.get_answered_by_name hlive hcls, ?_⟩
  rintro registry model chart resource hchart hserved ⟨object, hobject, hnames⟩ hlive
  exact ChartEditor.load_answered_by_name hlive hchart hserved hobject hnames

/-! ## A long name -/

/-- A name that an object may have; the value of a label has at most 63 characters. -/
def longName : String := "checkout.payments.eu-west-1.platform.infrastructure.example-shop.internal"

/-- A deployment in the namespace `shop`. -/
def deploymentNamed (name : String) : Json :=
  .object [("apiVersion", .str "apps/v1"), ("kind", .str "Deployment"),
    ("metadata", .object [("name", .str name), ("namespace", .str "shop")])]

/-- A deployment in the namespace `shop`, as it is opened. -/
def modelNamed (name : String) : EditedModel := ⟨⟨"apps", "v1", "Deployment"⟩, "shop", name⟩

/-- A cluster with gateway classes and deployments that have a short and a long name. -/
def payments : MemoryCluster where
  resources := gatewayClasses :: builtinResources
  objects := [GatewayInfo.gatewayClass "public", GatewayInfo.gatewayClass longName,
    deploymentNamed "web", deploymentNamed longName]

/-- The deployments of the cluster have a chart. -/
theorem payments_chart :
    ∃ chart, ChartRegistry.Available ⟨"charts"⟩ {} "apps" "Deployment" chart :=
  ⟨_, .bundled rfl rfl rfl⟩

/-- The deployments of the cluster are served. -/
theorem payments_served (name : String) : payments.served? (modelNamed name).resource =
    some ⟨"apps", "v1", "deployments", "Deployment", .namespaced⟩ := rfl

/-- The class and the deployment with short names are answered for. -/
theorem short_names_are_answered :
    GatewayInfo.gatewayClass "public" ∈ payments.heldOf GatewayInfo.group "GatewayClass" ∧
      (∃ info, (GatewayInfo.get (.memory payments) {} "public" {}).1 = .ok info) ∧
      deploymentNamed "web" ∈ payments.objects ∧
      (modelNamed "web").Names .namespaced (deploymentNamed "web") ∧
      ∃ objects, (ChartEditor.load ⟨"charts"⟩ (.memory payments) {} (modelNamed "web") {}).1 =
        .ok objects := by
  obtain ⟨hclasses, hmodels⟩ := existing_objects_answered_by_name payments {} {}
  have hpublic : GatewayInfo.gatewayClass "public" ∈
      payments.heldOf GatewayInfo.group "GatewayClass" := by decide
  have hweb : deploymentNamed "web" ∈ payments.objects := by decide
  have hnames : (modelNamed "web").Names .namespaced (deploymentNamed "web") := by decide
  obtain ⟨chart, hchart⟩ := payments_chart
  refine ⟨hpublic, (hclasses _ hpublic rfl).answered (by decide), hweb, hnames, ?_⟩
  exact (hmodels ⟨"charts"⟩ (modelNamed "web") chart _ hchart (payments_served "web")
    ⟨_, hweb, hnames⟩ rfl).answered (by decide)

/-- The class and the deployment with the long name are there as well, and are refused. -/
theorem long_names_are_refused :
    RequestContext.abort? {} 0 = none ∧
      (GatewayInfo.gatewayClass longName ∈ payments.heldOf GatewayInfo.group "GatewayClass" ∧
        ¬ ∃ info, (GatewayInfo.get (.memory payments) {} longName {}).1 = .ok info) ∧
      ((∃ chart, ChartRegistry.Available ⟨"charts"⟩ {} "apps" "Deployment" chart) ∧
        payments.served? (modelNamed longName).resource =
          some ⟨"apps", "v1", "deployments", "Deployment", .namespaced⟩ ∧
        deploymentNamed longName ∈ payments.objects ∧
        (modelNamed longName).Names .namespaced (deploymentNamed longName)) ∧
      ¬ ∃ objects,
        (ChartEditor.load ⟨"charts"⟩ (.memory payments) {} (modelNamed longName) {}).1 =
          .ok objects := by
  have hinvalid : Label.validValue longName.toList = false := by decide
  have hclass : GatewayInfo.gatewayClass longName ∈
      payments.heldOf GatewayInfo.group "GatewayClass" := by decide
  have hobject : deploymentNamed longName ∈ payments.objects := by decide
  have hnames : (modelNamed longName).Names .namespaced (deploymentNamed longName) := by decide
  have hserved := payments_served longName
  obtain ⟨chart, hchart⟩ := payments_chart
  have hget : (GatewayInfo.get (.memory payments) {} longName {}).1 = _ :=
    (GatewayInfo.get_answered_by_name rfl hclass).refused hinvalid
  have hload : (ChartEditor.load ⟨"charts"⟩ (.memory payments) {} (modelNamed longName) {}).1 = _ :=
    (ChartEditor.load_answered_by_name rfl hchart hserved hobject hnames).refused hinvalid
  refine ⟨rfl, ⟨hclass, ?_⟩, ⟨⟨chart, hchart⟩, hserved, hobject, hnames⟩, ?_⟩
  · rintro ⟨info, hinfo⟩
    cases hget.symm.trans hinfo
  · rintro ⟨objects, hobjects⟩
    cases hload.symm.trans hobjects

end VirtualApi

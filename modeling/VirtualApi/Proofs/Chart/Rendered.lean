import VirtualApi.Chart.Editor
import VirtualApi.Proofs.Chart.Confinement
import VirtualApi.Proofs.Cluster.Memory
import VirtualApi.Proofs.Label.Value
import VirtualApi.Proofs.Text.Sorting

/-!
# What an editor loads

On a cluster held in memory that answers at once, an editor shows the object it is opened on and,
component by component, the objects of the same instance (`Rendered`). Each component whose kind is
served takes its part, sorted by name: `Components` says so along the list of the chart, and
`ChartEditor.load_components_rendered` of the run. The main theorem,
`ChartEditor.editor_loads_rendered_set`, says when the objects are loaded and that they are these.
-/

namespace VirtualApi

/-! ## The chart -/

namespace ChartRegistry

variable {registry : ChartRegistry} {group kind : String} {chart : EditorChart} {w : World}

/-- The chart of a group and kind exists and decodes: it is kept, or its file decodes, or there is
no file and it comes with the library. -/
inductive Available (registry : ChartRegistry) (w : World) (group kind : String) :
    EditorChart → Prop
  | kept {chart : EditorChart} (hkept : kept? (chartPath group kind) w = some chart) :
      Available registry w group kind chart
  | file {text : String} {chart : EditorChart} (hnew : kept? (chartPath group kind) w = none)
      (hread : w.files.read (registry.filePath (chartPath group kind)) = .ok text)
      (hdecode : EditorChart.ofText? text = some chart) : Available registry w group kind chart
  | bundled {chart : EditorChart} (hnew : kept? (chartPath group kind) w = none)
      (hread : w.files.read (registry.filePath (chartPath group kind)) = .error .notFound)
      (hbundled : bundledChart? (chartPath group kind) = some chart) :
      Available registry w group kind chart

/-- A text decodes to a chart exactly when it is read as that chart. -/
theorem decode_eq_ok_iff {origin text : String} :
    decode origin text = .ok chart ↔ EditorChart.ofText? text = some chart := by
  unfold decode
  cases EditorChart.ofText? text <;> simp

/-- A chart is found where its file decodes, or else where there is no file and it comes with the
library. -/
theorem fetch_eq_ok_iff {files : FileTree} :
    (registry.fetch files group kind).1 = .ok chart ↔
      (∃ text, files.read (registry.filePath (chartPath group kind)) = .ok text ∧
        EditorChart.ofText? text = some chart) ∨
      files.read (registry.filePath (chartPath group kind)) = .error .notFound ∧
        bundledChart? (chartPath group kind) = some chart := by
  unfold fetch
  dsimp only
  cases files.read (registry.filePath (chartPath group kind)) with
  | ok text => simp [decode_eq_ok_iff]
  | error e =>
      cases e with
      | notFound =>
          cases bundledChart? (chartPath group kind) with
          | none => simp
          | some found =>
              dsimp only
              split <;> simp
      | _ => simp

/-- A look-up answers with the chart that is available. -/
theorem chart_for_eq_ok_iff :
    (registry.chartFor group kind w).1 = .ok chart ↔ registry.Available w group kind chart := by
  rw [chart_for_result]
  cases hkept : kept? (chartPath group kind) w with
  | some found =>
      constructor
      · intro h
        cases h
        exact .kept hkept
      · intro h
        cases h with
        | kept hsame => rw [Option.some.inj (hkept.symm.trans hsame)]; rfl
        | file hnew | bundled hnew => cases hkept.symm.trans hnew
  | none =>
      rw [Option.elim_none, fetch_eq_ok_iff]
      constructor
      · rintro (⟨text, hread, hdecode⟩ | ⟨hread, hbundled⟩)
        · exact .file hkept hread hdecode
        · exact .bundled hkept hread hbundled
      · intro h
        cases h with
        | kept hsome => cases hkept.symm.trans hsome
        | file _ hread hdecode => exact .inl ⟨_, hread, hdecode⟩
        | bundled _ hread hbundled => exact .inr ⟨hread, hbundled⟩

/-- A look-up takes no time. -/
theorem chart_for_now (registry : ChartRegistry) (group kind : String) (w : World) :
    (registry.chartFor group kind w).2.now = w.now := by
  unfold chartFor
  dsimp only
  cases kept? (chartPath group kind) w with
  | some chart => rfl
  | none =>
      rcases registry.fetch w.files group kind with ⟨_ | chart, files⟩
      · rfl
      · dsimp only [keep]
        split <;> rfl

end ChartRegistry

/-! ## What belongs to a model -/

namespace EditedModel

/-- An object is of a kind and lives in the namespace of the model, where the kind has namespaces
and the model names one. -/
def Covers (model : EditedModel) (gvk : GroupVersionKind) (scope : ResourceScope) (object : Json) :
    Prop :=
  object.textAt ["apiVersion"] = gvk.apiVersion ∧ object.textAt ["kind"] = gvk.kind ∧
    (scope = .namespaced → model.namespaceName ≠ "" →
      object.textAt ["metadata", "namespace"] = model.namespaceName)

/-- An object is the one that the model names. -/
def Names (model : EditedModel) (scope : ResourceScope) (object : Json) : Prop :=
  model.Covers model.resource scope object ∧ objectName object = model.name

/-- An object of a component belongs to the instance that the model names. -/
def Owns (model : EditedModel) (gvk : GroupVersionKind) (scope : ResourceScope) (object : Json) :
    Prop :=
  model.Covers gvk scope object ∧ object.labels.get? ChartEditor.instanceLabel = some model.name

instance (model : EditedModel) (gvk : GroupVersionKind) (scope : ResourceScope) (object : Json) :
    Decidable (model.Covers gvk scope object) :=
  inferInstanceAs (Decidable (_ ∧ _ ∧ (_ → _ → _)))

instance (model : EditedModel) (scope : ResourceScope) (object : Json) :
    Decidable (model.Names scope object) :=
  inferInstanceAs (Decidable (_ ∧ _))

instance (model : EditedModel) (gvk : GroupVersionKind) (scope : ResourceScope) (object : Json) :
    Decidable (model.Owns gvk scope object) :=
  inferInstanceAs (Decidable (_ ∧ _))

/-- The objects of a resource in the model's namespace are those that the model covers. -/
theorem is_of_iff {model : EditedModel} {resource : ResourceId} {object : Json} :
    MemoryCluster.isOf resource (nonEmpty? model.namespaceName) object = true ↔
      model.Covers resource.gvk resource.scope object := by
  unfold MemoryCluster.isOf Covers
  rw [Bool.and_eq_true, Bool.and_eq_true, decide_eq_true_iff, decide_eq_true_iff, and_assoc]
  refine and_congr Iff.rfl (and_congr Iff.rfl ?_)
  unfold nonEmpty? ResourceId.isNamespaced
  by_cases hempty : model.namespaceName = ""
  · simp [hempty]
  · simp [hempty, Decidable.imp_iff_not_or]

end EditedModel

/-- The objects of the components of a chart: those of the components that are served, one component
after the other, each sorted by name. -/
inductive Components (cluster : MemoryCluster) (model : EditedModel) :
    List GroupVersionKind → List Json → Prop
  | nil : Components cluster model [] []
  | served {gvk : GroupVersionKind} {rest : List GroupVersionKind} {resource : ResourceId}
      {part others : List Json} (hserved : cluster.served? gvk = some resource)
      (hpart : StablySorted objectName
        (cluster.objects.filter fun object => model.Owns gvk resource.scope object) part)
      (hrest : Components cluster model rest others) :
      Components cluster model (gvk :: rest) (part ++ others)
  | unserved {gvk : GroupVersionKind} {rest : List GroupVersionKind} {others : List Json}
      (hunserved : ∀ r ∈ cluster.resources, r.gvk ≠ gvk)
      (hrest : Components cluster model rest others) :
      Components cluster model (gvk :: rest) others

/-- What an editor shows: the object it is opened on, the first that the model names, and then the
objects of the components. -/
inductive Rendered (cluster : MemoryCluster) (model : EditedModel) (chart : EditorChart) :
    List Json → Prop
  | intro {resource : ResourceId} {primary : Json} {others : List Json}
      (hserved : cluster.served? model.resource = some resource)
      (hprimary : cluster.objects.find? (fun object => model.Names resource.scope object) =
        some primary)
      (hothers : Components cluster model chart.components others) :
      Rendered cluster model chart (primary :: others)

section Unique

variable {cluster : MemoryCluster} {model : EditedModel} {components : List GroupVersionKind}
  {chart : EditorChart} {first second : List Json}

/-- The components of a chart have one list of objects. -/
theorem Components.unique (hfirst : Components cluster model components first)
    (hsecond : Components cluster model components second) : first = second := by
  have hnot {gvk : GroupVersionKind} {resource : ResourceId}
      (hserved : cluster.served? gvk = some resource)
      (hunserved : ∀ r ∈ cluster.resources, r.gvk ≠ gvk) : False :=
    hunserved resource (List.mem_of_find?_eq_some hserved) (MemoryCluster.gvk_of_served hserved)
  induction hfirst generalizing second with
  | nil =>
      cases hsecond
      rfl
  | served hserved hpart hrest ih =>
      cases hsecond with
      | served hother hotherPart hotherRest =>
          cases hserved.symm.trans hother
          rw [hpart.unique hotherPart, ih hotherRest]
      | unserved hunserved _ => exact (hnot hserved hunserved).elim
  | unserved hunserved hrest ih =>
      cases hsecond with
      | served hserved _ _ => exact (hnot hserved hunserved).elim
      | unserved _ hotherRest => exact ih hotherRest

/-- An editor has one list of objects to show. -/
theorem Rendered.unique (hfirst : Rendered cluster model chart first)
    (hsecond : Rendered cluster model chart second) : first = second := by
  cases hfirst with
  | intro hserved hprimary hothers =>
      cases hsecond with
      | intro hservedOther hprimaryOther hothersOther =>
          cases hserved.symm.trans hservedOther
          cases hprimary.symm.trans hprimaryOther
          rw [hothers.unique hothersOther]

end Unique

/-! ## Loading -/

namespace ChartEditor

variable {registry : ChartRegistry} {cluster : MemoryCluster} {ctx : RequestContext}
  {model : EditedModel} {w : World}

/-- The requirement that an object belongs to the model's instance. -/
def instanceSelector (model : EditedModel) : Selector :=
  Selector.everything.push ⟨instanceLabel, .equals, [model.name]⟩

/-- The label that says which instance an object belongs to is one. -/
theorem instance_label_valid : Label.validKey instanceLabel.toList = true := by
  decide

/-- The objects of a resource that are selected are those that the model owns. -/
theorem select_objects_eq (cluster : MemoryCluster) (model : EditedModel) (resource : ResourceId) :
    cluster.selectObjects resource (nonEmpty? model.namespaceName) (instanceSelector model) =
      cluster.objects.filter fun object => model.Owns resource.gvk resource.scope object := by
  refine List.filter_congr fun object _ => ?_
  have hholds : (instanceSelector model).holds object.labels = true ↔
      object.labels.get? instanceLabel = some model.name := by
    rw [instanceSelector, Selector.push_holds_iff, holds_equals_iff]
    simp
  rw [Bool.eq_iff_iff, Bool.and_eq_true, EditedModel.is_of_iff, hholds, decide_eq_true_iff]
  rfl

/-- The object that is edited is found where there is an object that the model names. -/
theorem find_object_eq_ok_iff {resource : ResourceId} {primary : Json}
    (hserved : cluster.served? model.resource = some resource) :
    cluster.findObject resource (nonEmpty? model.namespaceName) model.name = .ok primary ↔
      cluster.objects.find? (fun object => model.Names resource.scope object) = some primary := by
  have hfind : (cluster.objects.find? fun object =>
      MemoryCluster.isOf resource (nonEmpty? model.namespaceName) object &&
        object.textAt ["metadata", "name"] = model.name) =
      cluster.objects.find? fun object => model.Names resource.scope object := by
    refine congrArg (List.find? · cluster.objects) (funext fun object => ?_)
    rw [Bool.eq_iff_iff, Bool.and_eq_true, EditedModel.is_of_iff, decide_eq_true_iff,
      decide_eq_true_iff, MemoryCluster.gvk_of_served hserved]
    rfl
  unfold MemoryCluster.findObject
  rw [hfind]
  cases cluster.objects.find? fun object => model.Names resource.scope object <;> simp

section Run

/-- The time that it takes to load the components of a chart: two answers for each. -/
def componentsTime (cluster : MemoryCluster) : List GroupVersionKind → Nat
  | [] => 0
  | _ :: rest => 2 * cluster.latency + componentsTime cluster rest

/-- The time that it takes to load the objects of a chart: that of the object that is edited, and
that of the components. -/
def loadTime (cluster : MemoryCluster) (chart : EditorChart) : Nat :=
  2 * cluster.latency + componentsTime cluster chart.components

/-- Where every answer comes at once, components are loaded at once. -/
theorem components_time_eq_zero (hlatency : cluster.latency = 0)
    (components : List GroupVersionKind) : componentsTime cluster components = 0 := by
  induction components with
  | nil => rfl
  | cons gvk rest ih => rw [componentsTime, ih, hlatency]

/-- A component takes two answers at most. It has its part where its kind is served, and nothing
elsewhere. -/
theorem load_component_part (hlive : ctx.abort? (w.now + 2 * cluster.latency) = none)
    (model : EditedModel) (gvk : GroupVersionKind) : ∃ part later,
    loadComponent (.memory cluster) ctx (nonEmpty? model.namespaceName) (instanceSelector model)
        gvk w = (.ok part, later) ∧ later.now ≤ w.now + 2 * cluster.latency ∧
      ∀ rest others, Components cluster model rest others →
        Components cluster model (gvk :: rest) (part ++ others) := by
  rw [Nat.two_mul, ← Nat.add_assoc] at hlive ⊢
  have hasked : (Cluster.memory cluster).resolve ctx gvk w =
      (cluster.findKind gvk, cluster.answered (.resolve gvk) w) :=
    MemoryCluster.answer_of_live (RequestContext.abort_eq_none_of_le (Nat.le_add_right _ _) hlive)
  cases hserved : cluster.served? gvk with
  | none =>
      -- the error of a kind that is not served has the code that is skipped
      have hresource : componentResource? (.memory cluster) ctx gvk w =
          (.ok none, cluster.answered (.resolve gvk) w) := by
        unfold componentResource?
        rw [hasked, MemoryCluster.find_kind_of_unserved hserved]
        rfl
      refine ⟨[], _, Action.bind_eq_ok_iff.mpr ⟨none, _, hresource, rfl⟩,
        Nat.le_add_right _ _, ?_⟩
      exact fun rest others hrest => .unserved (MemoryCluster.served_eq_none_iff.mp hserved) hrest
  | some resource =>
      have hresource : componentResource? (.memory cluster) ctx gvk w =
          (.ok (some resource), cluster.answered (.resolve gvk) w) := by
        unfold componentResource?
        rw [hasked, MemoryCluster.find_kind_eq_ok_iff_served.mpr hserved]
      have hlisted : (Cluster.memory cluster).listObjects ctx resource
          (nonEmpty? model.namespaceName) (instanceSelector model)
          (cluster.answered (.resolve gvk) w) = (.ok _, _) := MemoryCluster.answer_of_live hlive
      refine ⟨_, _, Action.bind_eq_ok_iff.mpr ⟨some resource, _, hresource,
        Action.bind_eq_ok_iff.mpr ⟨_, _, hlisted, rfl⟩⟩, Nat.le_refl _, ?_⟩
      intro rest others hrest
      refine .served hserved ?_ hrest
      rw [select_objects_eq, MemoryCluster.gvk_of_served hserved]
      exact stablySorted_mergeSort objectName _

/-- The components of a chart are loaded in the order of the chart. -/
theorem load_components_rendered (model : EditedModel) (components : List GroupVersionKind)
    (hlive : ctx.abort? (w.now + componentsTime cluster components) = none) :
    ∃ others later,
      loadComponents (.memory cluster) ctx (nonEmpty? model.namespaceName) (instanceSelector model)
          components w = (.ok others, later) ∧
        Components cluster model components others := by
  induction components generalizing w with
  | nil => exact ⟨[], w, rfl, .nil⟩
  | cons gvk rest ih =>
      rw [componentsTime] at hlive
      have hfirst : ctx.abort? (w.now + 2 * cluster.latency) = none :=
        RequestContext.abort_eq_none_of_le (by omega) hlive
      obtain ⟨part, middle, hpart, hmiddle, hcomponents⟩ := load_component_part hfirst model gvk
      have hlater : ctx.abort? (middle.now + componentsTime cluster rest) = none :=
        RequestContext.abort_eq_none_of_le (by omega) hlive
      obtain ⟨others, later, hrest, hothers⟩ := ih hlater
      exact ⟨part ++ others, later, Action.bind_eq_ok_iff.mpr ⟨part, middle, hpart,
        Action.bind_eq_ok_iff.mpr ⟨others, later, hrest, rfl⟩⟩, hcomponents rest others hothers⟩

section Primary

variable {chart : EditorChart} {resource : ResourceId} {primary : Json}
  (hchart : registry.Available w model.resource.group model.resource.kind chart)
  (hserved : cluster.served? model.resource = some resource)
  (hprimary : cluster.objects.find? (fun object => model.Names resource.scope object) =
    some primary)
include hchart hserved hprimary

/-- Where there are a chart and an object to open, that object is found by two answers, and the
objects of the components are loaded after it. -/
theorem load_of_primary (hlive : ctx.abort? (w.now + 2 * cluster.latency) = none) :
    ∃ later, later.now = w.now + 2 * cluster.latency ∧
      load registry (.memory cluster) ctx model w = (do
        let requirement ← Action.ofResult (labelEquals instanceLabel model.name)
        let components ← loadComponents (.memory cluster) ctx (nonEmpty? model.namespaceName)
          (Selector.everything.push requirement) chart.components
        pure (primary :: components)) later := by
  rw [Nat.two_mul, ← Nat.add_assoc] at hlive ⊢
  obtain ⟨first, hfirst, htime⟩ : ∃ first,
      registry.chartFor model.resource.group model.resource.kind w = (.ok chart, first) ∧
        first.now = w.now :=
    ⟨_, Prod.ext (ChartRegistry.chart_for_eq_ok_iff.mpr hchart) rfl,
      ChartRegistry.chart_for_now registry _ _ w⟩
  rw [← htime] at hlive ⊢
  have hresolved : (Cluster.memory cluster).resolve ctx model.resource first =
      (.ok resource, cluster.answered (.resolve model.resource) first) :=
    MemoryCluster.answer_eq_ok_iff.mpr
      ⟨RequestContext.abort_eq_none_of_le (Nat.le_add_right _ _) hlive,
        MemoryCluster.find_kind_eq_ok_iff_served.mpr hserved, rfl⟩
  let later := cluster.answered (.get resource (nonEmpty? model.namespaceName) model.name)
    (cluster.answered (.resolve model.resource) first)
  have hgot : (Cluster.memory cluster).getObject ctx resource (nonEmpty? model.namespaceName)
      model.name (cluster.answered (.resolve model.resource) first) = (.ok primary, later) :=
    MemoryCluster.answer_eq_ok_iff.mpr ⟨hlive, (find_object_eq_ok_iff hserved).mpr hprimary, rfl⟩
  refine ⟨later, rfl, ?_⟩
  unfold load
  rw [Action.bind_apply, hfirst]
  dsimp only
  rw [Action.bind_apply, hresolved]
  dsimp only
  rw [Action.bind_apply, hgot]

/-- The objects are loaded where the name of the one that is opened can be that of an instance. -/
theorem load_in_time (hlive : ctx.abort? (w.now + loadTime cluster chart) = none)
    (hname : Label.validValue model.name.toList = true) : ∃ objects final,
    load registry (.memory cluster) ctx model w = (.ok objects, final) ∧
      Rendered cluster model chart objects := by
  unfold loadTime at hlive
  obtain ⟨later, htime, hload⟩ := load_of_primary hchart hserved hprimary
    (RequestContext.abort_eq_none_of_le (by omega) hlive)
  rw [← Nat.add_assoc, ← htime] at hlive
  obtain ⟨others, final, hcomponents, hothers⟩ :=
    load_components_rendered model chart.components hlive
  refine ⟨primary :: others, final, ?_, .intro hserved hprimary hothers⟩
  rw [hload, label_equals_of_valid instance_label_valid hname, Action.of_result_ok_bind]
  exact Action.bind_eq_ok_iff.mpr ⟨others, final, hcomponents, rfl⟩

/-- Where it cannot, the object is refused once it is found, whatever components there are. -/
theorem load_of_invalid (hlive : ctx.abort? (w.now + 2 * cluster.latency) = none)
    (hname : Label.validValue model.name.toList = false) :
    (load registry (.memory cluster) ctx model w).1 =
      .error (.badRequest ("invalid label value " ++ Text.quoted model.name)) := by
  obtain ⟨later, -, hload⟩ := load_of_primary hchart hserved hprimary hlive
  rw [hload, label_equals_of_invalid instance_label_valid hname, Action.of_result_error_bind]
  rfl

end Primary

/-- On a cluster that answers at once they are loaded at once. -/
theorem load_rendered (hlatency : cluster.latency = 0) (hlive : ctx.abort? w.now = none)
    (hname : Label.validValue model.name.toList = true) {chart : EditorChart}
    (hchart : registry.Available w model.resource.group model.resource.kind chart)
    {resource : ResourceId} (hserved : cluster.served? model.resource = some resource)
    {primary : Json} (hprimary : cluster.objects.find? (fun object =>
      model.Names resource.scope object) = some primary) : ∃ objects final,
    load registry (.memory cluster) ctx model w = (.ok objects, final) ∧
      Rendered cluster model chart objects := by
  refine load_in_time hchart hserved hprimary ?_ hname
  rwa [loadTime, components_time_eq_zero hlatency, hlatency]

end Run

/-- Objects that are loaded were loaded by a chart for an object. -/
theorem available_of_load {objects : List Json} {final : World}
    (h : load registry (.memory cluster) ctx model w = (.ok objects, final)) :
    ∃ chart resource primary,
      registry.Available w model.resource.group model.resource.kind chart ∧
        cluster.served? model.resource = some resource ∧
        cluster.objects.find? (fun object => model.Names resource.scope object) =
          some primary := by
  obtain ⟨chart, first, hchart, hrest⟩ := Action.bind_eq_ok_iff.mp h
  obtain ⟨resource, second, hresolved, hrest⟩ := Action.bind_eq_ok_iff.mp hrest
  obtain ⟨primary, third, hgot, -⟩ := Action.bind_eq_ok_iff.mp hrest
  have hserved := MemoryCluster.find_kind_eq_ok_iff_served.mp
    (MemoryCluster.answer_eq_ok_iff.mp hresolved).2.1
  refine ⟨chart, resource, primary, ?_, hserved, ?_⟩
  · exact ChartRegistry.chart_for_eq_ok_iff.mp (by rw [hchart])
  · exact (find_object_eq_ok_iff hserved).mp (MemoryCluster.answer_eq_ok_iff.mp hgot).2.1

/-- On a cluster that answers at once, an editor whose model has a name that a label can have loads
its objects exactly when the chart is available, the model's kind is served and there is an object
that the model names; and what it loads is what the chart renders. -/
theorem editor_loads_rendered_set (registry : ChartRegistry) (cluster : MemoryCluster)
    (hlatency : cluster.latency = 0) (ctx : RequestContext) (w : World)
    (hlive : ctx.abort? w.now = none) (model : EditedModel)
    (hname : Label.validValue model.name.toList = true) :
    ((∃ objects final, load registry (.memory cluster) ctx model w = (.ok objects, final)) ↔
        (∃ chart, registry.Available w model.resource.group model.resource.kind chart) ∧
          ∃ resource, cluster.served? model.resource = some resource ∧
            ∃ object ∈ cluster.objects, model.Names resource.scope object) ∧
      ∀ objects, (∃ final, load registry (.memory cluster) ctx model w = (.ok objects, final)) ↔
        ∃ chart, registry.Available w model.resource.group model.resource.kind chart ∧
          Rendered cluster model chart objects := by
  refine ⟨⟨?_, ?_⟩, fun objects => ⟨?_, ?_⟩⟩
  · rintro ⟨objects, final, hload⟩
    obtain ⟨chart, resource, primary, hchart, hserved, hprimary⟩ := available_of_load hload
    exact ⟨⟨chart, hchart⟩, resource, hserved, primary, List.mem_of_find?_eq_some hprimary,
      by simpa using List.find?_some hprimary⟩
  · rintro ⟨⟨chart, hchart⟩, resource, hserved, object, hobject, hnames⟩
    have hfound : (cluster.objects.find? fun object =>
        model.Names resource.scope object).isSome = true :=
      List.find?_isSome.mpr ⟨object, hobject, decide_eq_true hnames⟩
    obtain ⟨primary, hprimary⟩ := Option.isSome_iff_exists.mp hfound
    obtain ⟨objects, final, hload, -⟩ :=
      load_rendered hlatency hlive hname hchart hserved hprimary
    exact ⟨objects, final, hload⟩
  · rintro ⟨final, hload⟩
    obtain ⟨chart, resource, primary, hchart, hserved, hprimary⟩ := available_of_load hload
    obtain ⟨others, _, hagain, hrendered⟩ :=
      load_rendered hlatency hlive hname hchart hserved hprimary
    cases hload.symm.trans hagain
    exact ⟨chart, hchart, hrendered⟩
  · rintro ⟨chart, hchart, hrendered⟩
    cases hrendered with
    | intro hserved hprimary hothers =>
        obtain ⟨others, final, hload, hagain⟩ :=
          load_rendered hlatency hlive hname hchart hserved hprimary
        exact ⟨final, (Rendered.intro hserved hprimary hothers).unique hagain ▸ hload⟩

/-! ## A shop

The deployment `web` of the namespace `shop`, with two services and a config map, among objects that
do not belong to it.
-/

/-- An object of the core group. -/
def coreObject (kind ns name inst : String) : Json :=
  .object [("apiVersion", .str "v1"), ("kind", .str kind),
    ("metadata", .object [("name", .str name), ("namespace", .str ns),
      ("labels", .object [(instanceLabel, .str inst)])])]

/-- The deployment. -/
def deployment : Json :=
  .object [("apiVersion", .str "apps/v1"), ("kind", .str "Deployment"),
    ("metadata", .object [("name", .str "web"), ("namespace", .str "shop")])]

/-- A cluster with the deployment, which does not serve the last two of its components. -/
def shop : MemoryCluster where
  objects := [coreObject "Service" "shop" "web" "web", coreObject "Service" "shop" "api" "web",
    coreObject "ConfigMap" "shop" "web" "web", coreObject "Service" "shop" "db" "store",
    coreObject "Service" "test" "web" "web", deployment]

/-- The deployment as it is opened. -/
def webModel : EditedModel := ⟨⟨"apps", "v1", "Deployment"⟩, "shop", "web"⟩

/-- The objects of a kind with namespaces that belong to the deployment, as the cluster has them. -/
def shopObjects (kind : String) : List Json :=
  shop.objects.filter fun object => webModel.Owns ⟨"", "v1", kind⟩ .namespaced object

/-- The services in the order of their names. -/
theorem shop_services_sorted : StablySorted objectName (shopObjects "Service")
    [coreObject "Service" "shop" "api" "web", coreObject "Service" "shop" "web" "web"] := by
  have howned : shopObjects "Service" =
      [coreObject "Service" "shop" "web" "web", coreObject "Service" "shop" "api" "web"] := by
    decide
  rw [howned]
  exact .of_perm (by decide) (.swap ..) (by decide)

/-- The deployment is loaded with its services and its config map. -/
theorem shop_is_loaded :
    shop.latency = 0 ∧ RequestContext.abort? {} 0 = none ∧
      Label.validValue webModel.name.toList = true ∧
      ∃ final, load ⟨"charts"⟩ (.memory shop) {} webModel {} =
        (.ok [deployment, coreObject "Service" "shop" "api" "web",
          coreObject "Service" "shop" "web" "web", coreObject "ConfigMap" "shop" "web" "web"],
          final) := by
  have hname : Label.validValue webModel.name.toList = true := by decide
  have hconfigs : StablySorted objectName (shopObjects "ConfigMap")
      [coreObject "ConfigMap" "shop" "web" "web"] := by
    rw [show shopObjects "ConfigMap" = [coreObject "ConfigMap" "shop" "web" "web"] by decide]
    exact .of_ordered (List.pairwise_singleton ..)
  have hsecrets : StablySorted objectName (shopObjects "Secret") [] := by
    rw [show shopObjects "Secret" = [] by decide]
    exact .of_ordered .nil
  have hserved (kind name : String)
      (h : shop.served? ⟨"", "v1", kind⟩ = some ⟨"", "v1", name, kind, .namespaced⟩)
      {rest : List GroupVersionKind} {part others : List Json}
      (hpart : StablySorted objectName (shopObjects kind) part)
      (hrest : Components shop webModel rest others) :
      Components shop webModel (⟨"", "v1", kind⟩ :: rest) (part ++ others) :=
    .served h hpart hrest
  refine ⟨rfl, rfl, hname, ?_⟩
  refine ((editor_loads_rendered_set ⟨"charts"⟩ shop rfl {} {} rfl webModel hname).2 _).mpr
    ⟨_, .bundled rfl rfl rfl, .intro rfl rfl ?_⟩
  exact hserved "Service" "services" rfl shop_services_sorted
    (hserved "ConfigMap" "configmaps" rfl hconfigs
      (hserved "Secret" "secrets" rfl hsecrets
        (.unserved (by decide) (.unserved (by decide) .nil))))

end ChartEditor

end VirtualApi

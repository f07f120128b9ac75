import VirtualApi.Chart.Manifests
import VirtualApi.Chart.Preset
import VirtualApi.Proofs.Cluster.Cutoff

/-!
# Loading charts and presets ends when it is cut off

Two errors are skipped on the way: that a component's kind is not served, and that a preset of a
namespace does not exist. Neither is the error of a cut, as `IsCut.code_ge` says, so that loading
still ends at the first cut.
-/

namespace VirtualApi

variable {cluster : Cluster} {ctx : RequestContext}

/-- The errors of a cut are the server's own. -/
theorem IsCut.code_ge {e : ApiError} (h : IsCut e) : 500 ≤ e.code := by
  rcases h with rfl | rfl <;> decide

/-! ## Charts -/

/-- Reading a chart changes no trace. -/
theorem ChartRegistry.chart_for_trace (registry : ChartRegistry) (group kind : String)
    (w : World) : (registry.chartFor group kind w).2.trace = w.trace := by
  unfold chartFor
  dsimp only
  split
  · rfl
  · split
    · rfl
    · unfold keep
      split <;> rfl

namespace ChartEditor

/-- Finding the resource of a component skips one error. -/
theorem component_resource_eq (gvk : GroupVersionKind) :
    componentResource? cluster ctx gvk =
      Action.orNone (·.code = 400) (cluster.resolve ctx gvk) := by
  funext w
  unfold componentResource? Action.orNone
  rcases cluster.resolve ctx gvk w with ⟨_ | _, _⟩ <;> rfl

/-- Loading a component ends when it is cut off: that its kind is not served is no cut. -/
theorem load_component_ends_at_cut (ns : Option String) (selector : Selector)
    (gvk : GroupVersionKind) : (loadComponent cluster ctx ns selector gvk).EndsAtCut := by
  have hresource : (componentResource? cluster ctx gvk).EndsAtCut := by
    rw [component_resource_eq]
    refine .or_none (cluster.resolve_ends_at_cut ctx gvk) fun e hcut hcode => ?_
    have := hcut.code_ge
    omega
  refine .bind hresource fun served => ?_
  cases served with
  | none => exact .pure _
  | some resource => exact .bind (cluster.list_objects_ends_at_cut ctx _ _ _) fun _ => .pure _

/-- Loading components ends when one of them is cut off. -/
theorem load_components_ends_at_cut (ns : Option String) (selector : Selector)
    (components : List GroupVersionKind) :
    (loadComponents cluster ctx ns selector components).EndsAtCut := by
  induction components with
  | nil => exact .pure _
  | cons gvk rest ih =>
      exact .bind (load_component_ends_at_cut ns selector gvk) fun _ => .bind ih fun _ => .pure _

/-- Loading the objects behind a chart ends when one of the questions is cut off. -/
theorem load_ends_at_cut (registry : ChartRegistry) (model : EditedModel) :
    (load registry cluster ctx model).EndsAtCut := by
  refine .bind (.of_trace_eq (registry.chart_for_trace _ _)) fun chart => ?_
  refine .bind (cluster.resolve_ends_at_cut ctx _) fun resource => ?_
  refine .bind (cluster.get_object_ends_at_cut ctx _ _ _) fun primary => ?_
  refine .bind (.of_result _) fun requirement => ?_
  exact .bind (load_components_ends_at_cut _ _ _) fun _ => .pure _

end ChartEditor

/-- Loading the manifests behind an object ends when one of the questions is cut off. -/
theorem load_manifests_ends_at_cut (registry : ChartRegistry) (request : ManifestsRequest) :
    (loadManifests registry cluster ctx request).EndsAtCut :=
  .bind (ChartEditor.load_ends_at_cut registry _) fun _ => .pure _

/-! ## Presets -/

namespace Preset

/-- Getting an object that need not exist skips one error. -/
theorem get_object_eq (resource : ResourceId) (ns name : String) :
    getObject? cluster ctx resource ns name =
      Action.orNone (·.isNotFound = true) (cluster.getObject ctx resource (some ns) name) := by
  funext w
  unfold getObject? Action.orNone
  rcases cluster.getObject ctx resource (some ns) name w with ⟨_ | _, _⟩ <;> rfl

/-- Getting an object ends when it is cut off: that it does not exist is no cut. -/
theorem get_object_ends_at_cut (resource : ResourceId) (ns name : String) :
    (getObject? cluster ctx resource ns name).EndsAtCut := by
  rw [get_object_eq]
  exact .or_none (cluster.get_object_ends_at_cut ctx _ _ _) fun e hcut => hcut.not_not_found

/-- Finding a preset of a namespace ends when it is cut off. -/
theorem in_namespace_ends_at_cut (name : String) (ns : Option String) :
    (inNamespace? cluster ctx name ns).EndsAtCut := by
  refine .bind (cluster.resolve_kind_ends_at_cut ctx _ _) fun served => ?_
  split
  · exact get_object_ends_at_cut _ _ _
  · exact .pure _

/-- Finding a preset of the cluster ends when it is cut off. -/
theorem in_cluster_ends_at_cut (name : String) : (inCluster cluster ctx name).EndsAtCut := by
  refine .bind (cluster.resolve_kind_ends_at_cut ctx _ _) fun served => ?_
  cases served with
  | some resource => exact cluster.get_object_ends_at_cut ctx _ _ _
  | none => exact .throw _

/-- Finding a preset by its name ends when one of the questions is cut off. -/
theorem by_name_ends_at_cut (ns : Option String) (name : String) :
    (byName cluster ctx ns name).EndsAtCut := by
  refine .bind (in_namespace_ends_at_cut name ns) fun found => ?_
  cases found with
  | some object => exact .pure _
  | none => exact .bind (in_cluster_ends_at_cut name) fun _ => .pure _

/-- Listing the objects of a resource of presets ends when it is cut off. -/
theorem selected_ends_at_cut (resource : ResourceId) (ns : Option String) (selector : Selector) :
    (selected cluster ctx resource ns selector).EndsAtCut :=
  .bind (cluster.list_objects_ends_at_cut ctx _ _ _) fun _ => .pure _

/-- Finding the presets of the cluster ends when one of the questions is cut off. -/
theorem selected_in_cluster_ends_at_cut (selector : Selector) :
    (selectedInCluster cluster ctx selector).EndsAtCut := by
  refine .bind (cluster.resolve_kind_ends_at_cut ctx _ _) fun served => ?_
  cases served with
  | some resource => exact selected_ends_at_cut _ _ _
  | none => exact .pure _

/-- Finding the presets of a namespace ends when one of the questions is cut off. -/
theorem selected_in_namespace_ends_at_cut (selector : Selector) (ns : Option String) :
    (selectedInNamespace cluster ctx selector ns).EndsAtCut := by
  refine .bind (cluster.resolve_kind_ends_at_cut ctx _ _) fun served => ?_
  split
  · exact selected_ends_at_cut _ _ _
  · exact .pure _

/-- Finding presets ends when one of the questions is cut off. -/
theorem load_ends_at_cut (query : PresetQuery) : (load cluster ctx query).EndsAtCut := by
  unfold load
  dsimp only
  split
  · exact by_name_ends_at_cut _ _
  · refine .bind (.of_result _) fun selector => ?_
    refine .bind (selected_in_cluster_ends_at_cut selector) fun shared => ?_
    exact .bind (selected_in_namespace_ends_at_cut selector _) fun own => .pure _

end Preset

end VirtualApi

import VirtualApi.Cluster.Gateway
import VirtualApi.Cluster.Project
import VirtualApi.Cluster.Site
import VirtualApi.Proofs.Request.Cutoff

/-!
# Questions to a cluster end when they are cut off

Whether a cluster is held in memory or reached through a transport, each question to it is one call,
and what is made of its answer leaves the errors of a cut alone. The same holds for what is looked
up in a cluster: sites, gateway classes and projects.
-/

namespace VirtualApi

/-! ## Transports and discovery -/

namespace Transport

/-- Sending a request is quiet. -/
theorem send_quiet (transport : Transport) (method uri : String) (body : Option Json) :
    (transport.send method uri body).Quiet :=
  .bind (.emit fun _ h => by cases h) fun _ => .bind (.wait _) fun _ => .pure _

/-- Asking for a value is quiet. -/
theorem get_quiet (transport : Transport) {α : Type} (unbuildable : UriError → String)
    (text : String) (read : RawReader α) : (transport.get unbuildable text read).Quiet := by
  unfold get
  split
  · exact .answer _
  · exact .bind (transport.send_quiet _ _ _) fun _ => .answer _

end Transport

namespace Discovery

variable (transport : Transport)

/-- Asking for the versions of a group is quiet. -/
theorem ask_versions_quiet (name : String) (versions : List (String × String)) :
    (askVersions transport name versions).Quiet := by
  unfold askVersions
  split
  · exact .answer _
  · refine .bind (.mapM ?_ versions) fun _ => .pure _
    intro version
    exact .bind (transport.get_quiet _ _ _) fun _ => .pure _

/-- Asking for the groups is quiet. -/
theorem ask_groups_quiet (groups : List Group) : (askGroups transport groups).Quiet := by
  refine .mapM ?_ groups
  intro group
  exact .bind (ask_versions_quiet transport _ _) fun _ => .pure _

/-- Asking for all resources is quiet. -/
theorem ask_quiet : (ask transport).Quiet := by
  refine .bind (.emit fun _ h => by cases h) fun _ => ?_
  refine .bind (transport.get_quiet _ _ _) fun groups => ?_
  refine .bind (ask_groups_quiet transport groups) fun _ => ?_
  refine .bind (transport.get_quiet _ _ _) fun _ => ?_
  exact .bind (ask_versions_quiet transport _ _) fun _ => .pure _

end Discovery

namespace Mapper

variable {discover : Call (List ResourceId)} {ctx : RequestContext}

/-- Asking for the resources ends when it is cut off. -/
theorem refresh_ends_at_cut (h : discover.Quiet) : (refresh discover ctx).EndsAtCut := by
  intro w
  unfold refresh
  split
  · exact .of_trace_eq rfl
  · exact Action.EndsAtCut.bind (ctx.run_ends_at_cut h)
      (fun _ => .of_trace_eq fun _ => rfl) w

/-- Looking something up ends when the question for the resources is cut off. -/
theorem find_ends_at_cut (h : discover.Quiet) {α : Type} (lookup : List ResourceId → Option α) :
    (find discover ctx lookup).EndsAtCut := by
  refine .bind (.of_trace_eq fun _ => rfl) fun found => ?_
  cases found with
  | some a => exact .pure _
  | none => exact .bind (refresh_ends_at_cut h) fun _ => .of_trace_eq fun _ => rfl

/-- Finding the resource of a kind ends when the question for the resources is cut off. -/
theorem resolve_ends_at_cut (h : discover.Quiet) (gvk : GroupVersionKind) :
    (resolve discover ctx gvk).EndsAtCut := by
  refine .bind (find_ends_at_cut h _) fun found => ?_
  cases found with
  | some r => exact .pure r
  | none => exact .throw _

end Mapper

/-! ## Clusters -/

/-- An answer of a memory cluster ends when it is cut off. -/
theorem MemoryCluster.answer_ends_at_cut {α : Type} {cluster : MemoryCluster}
    {ctx : RequestContext} {question : ClusterQuestion} {result : ApiResult α} :
    (cluster.answer ctx question result).EndsAtCut :=
  ctx.run_ends_at_cut
    (.bind (.emit fun _ h => by cases h) fun _ => .bind (.wait _) fun _ => .answer _)

/-- A question to a host cluster ends when it is cut off. -/
theorem HostCluster.ask_ends_at_cut {α : Type} {transport : Transport} {ctx : RequestContext}
    {text : String} {read : RawReader α} : (ask transport ctx text read).EndsAtCut :=
  ctx.run_ends_at_cut (transport.get_quiet _ _ _)

namespace Cluster

variable (cluster : Cluster) (ctx : RequestContext)

/-- Finding the resource of a kind ends when it is cut off. -/
theorem resolve_ends_at_cut (gvk : GroupVersionKind) : (cluster.resolve ctx gvk).EndsAtCut := by
  cases cluster with
  | memory c => exact MemoryCluster.answer_ends_at_cut
  | host t => exact Mapper.resolve_ends_at_cut (Discovery.ask_quiet t) gvk

/-- Finding the preferred resource of a kind ends when it is cut off. -/
theorem resolve_kind_ends_at_cut (group kind : String) :
    (cluster.resolveKind ctx group kind).EndsAtCut := by
  cases cluster with
  | memory c => exact MemoryCluster.answer_ends_at_cut
  | host t => exact Mapper.find_ends_at_cut (Discovery.ask_quiet t) _

/-- Getting an object ends when it is cut off. -/
theorem get_object_ends_at_cut (resource : ResourceId) (ns : Option String) (name : String) :
    (cluster.getObject ctx resource ns name).EndsAtCut := by
  cases cluster with
  | memory c => exact MemoryCluster.answer_ends_at_cut
  | host t => exact .bind HostCluster.ask_ends_at_cut fun _ => .pure _

/-- Listing objects ends when it is cut off. -/
theorem list_objects_ends_at_cut (resource : ResourceId) (ns : Option String)
    (selector : Selector) : (cluster.listObjects ctx resource ns selector).EndsAtCut := by
  cases cluster with
  | memory c => exact MemoryCluster.answer_ends_at_cut
  | host t => exact .bind HostCluster.ask_ends_at_cut fun _ => .pure _

/-- Listing the nodes ends when it is cut off. -/
theorem nodes_ends_at_cut : (cluster.nodes ctx).EndsAtCut := by
  cases cluster with
  | memory c => exact MemoryCluster.answer_ends_at_cut
  | host t => exact HostCluster.ask_ends_at_cut

/-- Listing namespaces ends when it is cut off. -/
theorem namespaces_ends_at_cut (selector : Selector) :
    (cluster.namespaces ctx selector).EndsAtCut := by
  cases cluster with
  | memory c => exact MemoryCluster.answer_ends_at_cut
  | host t => exact HostCluster.ask_ends_at_cut

/-- Listing services ends when it is cut off. -/
theorem services_ends_at_cut (ns : Option String) (selector : Selector) :
    (cluster.services ctx ns selector).EndsAtCut := by
  cases cluster with
  | memory c => exact MemoryCluster.answer_ends_at_cut
  | host t => exact HostCluster.ask_ends_at_cut

end Cluster

/-! ## What is looked up in a cluster -/

variable (cluster : Cluster) (ctx : RequestContext)

/-- A cut is no error that says that something does not exist. -/
theorem IsCut.not_not_found {e : ApiError} (h : IsCut e) : ¬ e.isNotFound = true := by
  rcases h with rfl | rfl <;> decide

/-- The site as it is now ends when the question for the nodes is cut off. -/
theorem SiteInfo.create_ends_at_cut (snapshot : SiteInfo) :
    (SiteInfo.create cluster snapshot ctx).EndsAtCut :=
  .bind (cluster.nodes_ends_at_cut ctx) fun _ => .of_result _

/-- How a gateway class is exposed ends when one of its three questions is cut off. Only the error
of a class that does not exist is worded anew. -/
theorem GatewayInfo.get_ends_at_cut (name : String) :
    (GatewayInfo.get cluster ctx name).EndsAtCut := by
  refine .bind (cluster.resolve_kind_ends_at_cut ctx _ _) fun served => ?_
  cases served with
  | none => exact .throw _
  | some resource =>
      have hclass : ((cluster.getObject ctx resource none name).mapError
          (classError name)).EndsAtCut := by
        refine .map_error (cluster.get_object_ends_at_cut ctx _ _ _) fun e hcut => ?_
        unfold classError
        rw [if_neg hcut.not_not_found]
      refine .bind hclass fun cls => .bind (.of_result _) fun selector => ?_
      refine .bind (cluster.services_ends_at_cut ctx _ _) fun services => ?_
      split <;> exact .pure _

namespace Project

/-- Finding out whether a cluster is managed ends when it is cut off. -/
theorem is_managed_ends_at_cut : (isManaged cluster ctx).EndsAtCut :=
  .bind (cluster.resolve_kind_ends_at_cut ctx _ _) fun _ => .pure _

/-- Loading the projects ends when it is cut off. -/
theorem load_ends_at_cut : (load cluster ctx).EndsAtCut :=
  .bind (.of_result _) fun _ => .bind (cluster.namespaces_ends_at_cut ctx _) fun _ => .pure _

/-- Listing the projects ends when one of the two questions is cut off. -/
theorem list_ends_at_cut : (list cluster ctx).EndsAtCut := by
  refine .bind (is_managed_ends_at_cut cluster ctx) fun managed => ?_
  split
  · exact load_ends_at_cut cluster ctx
  · exact .pure _

/-- A cluster that answers too late is asked one question, not two. -/
example : list (.memory { latency := 10 }) { deadline := some 5 } {} =
    (.error RequestContext.deadlineExceeded,
      { now := 5
        trace := [.clusterAsked (.resolveKind "management.cattle.io" "Project"),
          .cutOff RequestContext.deadlineExceeded] }) := by rfl

/-- Getting a project ends when one of the two questions is cut off. -/
theorem get_ends_at_cut (id : String) : (get cluster ctx id).EndsAtCut := by
  refine .bind (is_managed_ends_at_cut cluster ctx) fun managed => ?_
  split
  · refine .bind (load_ends_at_cut cluster ctx) fun projects => ?_
    split
    · exact .pure _
    · exact .throw _
  · exact .throw _

end Project

end VirtualApi

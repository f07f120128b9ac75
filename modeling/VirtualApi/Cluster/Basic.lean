import VirtualApi.Cluster.Host
import VirtualApi.Cluster.Memory

/-!
# Clusters

A cluster is held in memory or reached through a transport. Either way it finds the resource of a
kind, and gets and lists objects, nodes, namespaces and services.
-/

namespace VirtualApi

/-- A cluster. -/
inductive Cluster where
  | memory (cluster : MemoryCluster)
  | host (transport : Transport)

namespace Cluster

/-- The resource that serves a kind. -/
def resolve (cluster : Cluster) (ctx : RequestContext) (gvk : GroupVersionKind) :
    Action ResourceId :=
  match cluster with
  | .memory c => c.answer ctx (.resolve gvk) (c.findKind gvk)
  | .host t => HostCluster.resolve t ctx gvk

/-- The resource of a group and kind in the version the cluster prefers, if any is served. -/
def resolveKind (cluster : Cluster) (ctx : RequestContext) (group kind : String) :
    Action (Option ResourceId) :=
  match cluster with
  | .memory c =>
      c.answer ctx (.resolveKind group kind) (.ok (Mapper.byKind? c.resources group kind))
  | .host t => HostCluster.resolveKind t ctx group kind

/-- An object by its name. -/
def getObject (cluster : Cluster) (ctx : RequestContext) (resource : ResourceId)
    (ns : Option String) (name : String) : Action Json :=
  match cluster with
  | .memory c => c.answer ctx (.get resource ns name) (c.findObject resource ns name)
  | .host t => HostCluster.getObject t ctx resource ns name

/-- The objects of a resource whose labels satisfy a selector; without a namespace, of all. -/
def listObjects (cluster : Cluster) (ctx : RequestContext) (resource : ResourceId)
    (ns : Option String) (selector : Selector) : Action (List Json) :=
  match cluster with
  | .memory c =>
      c.answer ctx (.list resource ns selector) (.ok (c.selectObjects resource ns selector))
  | .host t => HostCluster.listObjects t ctx resource ns selector

/-- The nodes. -/
def nodes (cluster : Cluster) (ctx : RequestContext) : Action (List Node) :=
  match cluster with
  | .memory c => c.answer ctx .nodes (.ok c.nodes)
  | .host t => HostCluster.nodes t ctx

/-- The namespaces whose labels satisfy a selector. -/
def namespaces (cluster : Cluster) (ctx : RequestContext) (selector : Selector) :
    Action (List Namespace) :=
  match cluster with
  | .memory c => c.answer ctx (.namespaces selector) (.ok (c.selectNamespaces selector))
  | .host t => HostCluster.namespaces t ctx selector

/-- The services in a namespace, or in all, whose labels satisfy a selector. -/
def services (cluster : Cluster) (ctx : RequestContext) (ns : Option String)
    (selector : Selector) : Action (List Service) :=
  match cluster with
  | .memory c => c.answer ctx (.services ns selector) (.ok (c.selectServices ns selector))
  | .host t => HostCluster.services t ctx ns selector

/-- The version of the cluster. -/
def version (cluster : Cluster) (ctx : RequestContext) : Action VersionInfo :=
  match cluster with
  | .memory c => c.answer ctx .version (.ok c.version)
  | .host t => HostCluster.version t ctx

end Cluster

end VirtualApi

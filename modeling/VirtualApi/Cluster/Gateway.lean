import VirtualApi.Catalog.Descriptor
import VirtualApi.Chart.Editor

/-!
# How a gateway class is exposed

A gateway class is exposed by a service that is labelled with it. Of several the first by namespace
and name counts. Its host name is the one it is annotated with, or else the first address its load
balancer gave it.
-/

namespace VirtualApi

/-- How a gateway class is exposed. -/
structure GatewayInfo where
  className : String
  serviceType : String := ""
  hostName : String := ""
  ip : String := ""
deriving DecidableEq, Repr, Inhabited

namespace GatewayInfo

/-- The group of gateway classes. -/
def group : String := "gateway.networking.k8s.io"

/-- The label that says what manages a service. -/
def managedByLabel : String := "app.kubernetes.io/managed-by"

/-- The label that says which class a service belongs to. -/
def owningClassLabel : String := "gateway.envoyproxy.io/owning-gatewayclass"

/-- The annotation with the host name of a service. -/
def hostnameAnnotation : String := "external-dns.alpha.kubernetes.io/hostname"

/-- Gateway information as JSON. -/
def toJson (info : GatewayInfo) : Json :=
  .object [("apiVersion", .str metaApiVersion), ("kind", .str "GatewayInfo"),
    ("metadata", .object [("name", .str info.className)]),
    ("spec", .object [("gatewayClassName", .str info.className),
      ("serviceType", .str info.serviceType), ("hostName", .str info.hostName),
      ("ip", .str info.ip)])]

/-- The host name that a service is annotated with. -/
def annotatedHost? (service : Service) : Option String :=
  service.metadata.annotations.bind (Entries.get? hostnameAnnotation)

/-- The first address that the load balancer of a service gave out. -/
def firstIngress? (service : Service) : Option Ingress := do
  let status ← service.status
  let balancer ← status.loadBalancer
  (← balancer.ingress).head?

/-- How a service exposes a class. -/
def ofService (className : String) (service : Service) : GatewayInfo :=
  let serviceType := (service.spec.bind (·.type)).getD ""
  match annotatedHost? service, firstIngress? service with
  | some host, _ => { className := className, serviceType := serviceType, hostName := host }
  | none, some ingress =>
      { className := className, serviceType := serviceType,
        hostName := ingress.hostname.getD "", ip := ingress.ip.getD "" }
  | none, none => { className := className, serviceType := serviceType }

/-- An absent text comes before every other one. -/
def textLe : Option String → Option String → Bool
  | none, _ => true
  | some _, none => false
  | some a, some b => a ≤ b

/-- The order of services by namespace and name. -/
def serviceLe (a b : Service) : Bool :=
  if a.metadata.namespaceName = b.metadata.namespaceName then textLe a.metadata.name b.metadata.name
  else textLe a.metadata.namespaceName b.metadata.namespaceName

/-- The service that counts: the first by namespace and name. -/
def exposing? (services : List Service) : Option Service := (services.mergeSort serviceLe).head?

/-- The selector of the services that expose a class. -/
def selector (className : String) : ApiResult Selector := do
  let managed ← labelEquals managedByLabel "envoy-gateway"
  let owned ← labelEquals owningClassLabel className
  pure ((Selector.everything.push managed).push owned)

/-- The error of a class that cannot be read. -/
def classError (name : String) (e : ApiError) : ApiError :=
  if e.isNotFound then .notFound group "gatewayclasses" name else e

/-- How the class of a name is exposed. -/
def get (cluster : Cluster) (ctx : RequestContext) (name : String) : Action GatewayInfo := do
  match ← cluster.resolveKind ctx group "GatewayClass" with
  | none =>
      throw (.internal ("cluster does not serve gatewayclasses." ++ group ++
        ", the Gateway API CRDs are not installed"))
  | some resource => do
      let cls ← (cluster.getObject ctx resource none name).mapError (classError name)
      let ns := nonEmpty? (cls.textAt ["spec", "parametersRef", "namespace"])
      let selector ← Action.ofResult (selector name)
      match exposing? (← cluster.services ctx ns selector) with
      | some service => pure (ofService name service)
      | none => pure { className := name }

end GatewayInfo

end VirtualApi

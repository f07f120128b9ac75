import Mathlib.Data.List.Nodup
import Mathlib.Data.Prod.Lex
import Mathlib.Data.String.Basic
import Mathlib.Order.WithBot
import VirtualApi.Cluster.Gateway
import VirtualApi.Proofs.Cluster.Memory
import VirtualApi.Proofs.Label.Value

/-!
# Which service exposes a gateway class

On a cluster held in memory, what is answered for a gateway class depends on the set of its services
alone. `Exposes` says which services expose the class, `place` in which order they count, and
`Describes` what is told of the one that does. The main theorem, `least_service_is_described`, says
that the least of the exposing services is described, wherever it stands in the list.
-/

namespace VirtualApi

/-- The first item of a list that is sorted by different keys is the one with the least key. -/
theorem head_mergeSort_eq_some_iff {α κ : Type} [LinearOrder κ] {key : α → κ} {le : α → α → Bool}
    (hle : ∀ a b, le a b = true ↔ key a ≤ key b) {items : List α} (hkeys : (items.map key).Nodup)
    {a : α} :
    (items.mergeSort le).head? = some a ↔ a ∈ items ∧ ∀ b ∈ items, key a ≤ key b := by
  have hsorted : (items.mergeSort le).Pairwise fun a b => le a b = true :=
    List.pairwise_mergeSort
      (fun a b c hab hbc => (hle a c).mpr (((hle a b).mp hab).trans ((hle b c).mp hbc)))
      (fun a b => by simpa [hle] using le_total (key a) (key b)) items
  have hleast {first : α} (hfirst : (items.mergeSort le).head? = some first) :
      first ∈ items ∧ ∀ b ∈ items, key first ≤ key b := by
    obtain ⟨rest, hrest⟩ := List.head?_eq_some_iff.mp hfirst
    rw [hrest, List.pairwise_cons] at hsorted
    have hmem (b : α) : b ∈ items ↔ b = first ∨ b ∈ rest := by
      rw [← (List.mergeSort_perm items le).mem_iff, hrest, List.mem_cons]
    refine ⟨(hmem first).mpr (.inl rfl), fun b hb => ?_⟩
    rcases (hmem b).mp hb with rfl | hb
    · exact le_refl _
    · exact (hle first b).mp (hsorted.1 b hb)
  refine ⟨hleast, fun ⟨ha, hall⟩ => ?_⟩
  obtain ⟨first, hfirst⟩ : ∃ first, (items.mergeSort le).head? = some first := by
    refine Option.ne_none_iff_exists'.mp fun hnone => ?_
    rw [List.head?_eq_none_iff] at hnone
    have hmem := (List.mergeSort_perm items le).mem_iff.mpr ha
    rw [hnone] at hmem
    exact List.not_mem_nil hmem
  obtain ⟨hmem, hbefore⟩ := hleast hfirst
  have hkey : key first = key a := le_antisymm (hbefore a ha) (hall first hmem)
  rw [hfirst, List.inj_on_of_nodup_map hkeys hmem ha hkey]

namespace GatewayInfo

/-! ## The services of a class -/

/-- A text in the order of texts, where an absent one comes before all others. -/
def rank : Option String → WithBot String
  | none => ⊥
  | some text => text

/-- The place of a service among others: by namespace, then by name. -/
def place (service : Service) : WithBot String ×ₗ WithBot String :=
  toLex (rank service.metadata.namespaceName, rank service.metadata.name)

/-- The value of a label of a service. -/
def label? (key : String) (service : Service) : Option String :=
  service.metadata.labels.bind (Entries.get? key)

/-- The namespace of the parameters of a class, if the class names one. -/
def parametersNamespace (cls : Json) : String :=
  cls.textAt ["spec", "parametersRef", "namespace"]

/-- A service exposes a class: it says what manages it and which class it belongs to, and it lives
in the namespace of the parameters of the class, where the class names one. -/
structure Exposes (cls : Json) (name : String) (service : Service) : Prop where
  managed : label? "app.kubernetes.io/managed-by" service = some "envoy-gateway"
  owned : label? "gateway.envoyproxy.io/owning-gatewayclass" service = some name
  namespaced : parametersNamespace cls ≠ "" →
    service.metadata.namespaceName = some (parametersNamespace cls)

/-- A service carries a host name as an annotation. -/
def Annotated (service : Service) (host : String) : Prop :=
  ∃ annotations, service.metadata.annotations = some annotations ∧
    annotations.get? "external-dns.alpha.kubernetes.io/hostname" = some host

/-- An address stands first in `status.loadBalancer.ingress` of a service. -/
def Balanced (service : Service) (first : Ingress) : Prop :=
  ∃ status balancer others, service.status = some status ∧
    status.loadBalancer = some balancer ∧ balancer.ingress = some (first :: others)

/-- What is told of a service: its type, and the host name that it is annotated with, or else the
address and the host name that stand first among those of its load balancer, or else nothing. -/
inductive Describes (name : String) (service : Service) : GatewayInfo → Prop
  | annotated {host : String} (hhost : Annotated service host) :
      Describes name service
        { className := name, serviceType := (service.spec.bind (·.type)).getD "",
          hostName := host, ip := "" }
  | balanced {first : Ingress} (hbare : ∀ host, ¬ Annotated service host)
      (hfirst : Balanced service first) :
      Describes name service
        { className := name, serviceType := (service.spec.bind (·.type)).getD "",
          hostName := first.hostname.getD "", ip := first.ip.getD "" }
  | bare (hbare : ∀ host, ¬ Annotated service host) (hnone : ∀ first, ¬ Balanced service first) :
      Describes name service
        { className := name, serviceType := (service.spec.bind (·.type)).getD "",
          hostName := "", ip := "" }

/-- What is told of a class among services: the least of those that expose it is described; where
none does, there is nothing to tell but the name of the class. -/
inductive Tells (services : List Service) (cls : Json) (name : String) : GatewayInfo → Prop
  | exposed {service : Service} {info : GatewayInfo} (hmem : service ∈ services)
      (hexposes : Exposes cls name service)
      (hleast : ∀ other ∈ services, Exposes cls name other → place service ≤ place other)
      (hinfo : Describes name service info) : Tells services cls name info
  | unexposed (hnone : ∀ service ∈ services, ¬ Exposes cls name service) :
      Tells services cls name
        { className := name, serviceType := "", hostName := "", ip := "" }

/-- The host name that is read is the one of the annotation. -/
theorem annotated_host_iff {service : Service} {host : String} :
    annotatedHost? service = some host ↔ Annotated service host := Option.bind_eq_some_iff

/-- None is read where there is no annotation. -/
theorem annotated_host_eq_none_iff {service : Service} :
    annotatedHost? service = none ↔ ∀ host, ¬ Annotated service host := by
  simp only [Option.eq_none_iff_forall_ne_some, ne_eq, annotated_host_iff]

/-- The address that is read is the first one of the load balancer. -/
theorem first_ingress_iff {service : Service} {first : Ingress} :
    firstIngress? service = some first ↔ Balanced service first := by
  simp only [firstIngress?, Balanced, Option.bind_eq_bind, Option.bind_eq_some_iff,
    List.head?_eq_some_iff]
  constructor
  · rintro ⟨status, hstatus, balancer, hbalancer, ingress, hingress, others, rfl⟩
    exact ⟨status, balancer, others, hstatus, hbalancer, hingress⟩
  · rintro ⟨status, balancer, others, hstatus, hbalancer, hingress⟩
    exact ⟨status, hstatus, balancer, hbalancer, _, hingress, others, rfl⟩

/-- None is read where the load balancer has none. -/
theorem first_ingress_eq_none_iff {service : Service} :
    firstIngress? service = none ↔ ∀ first, ¬ Balanced service first := by
  simp only [Option.eq_none_iff_forall_ne_some, ne_eq, first_ingress_iff]

/-- A service is described in one way. -/
theorem describes_iff {name : String} {service : Service} {info : GatewayInfo} :
    Describes name service info ↔ info = ofService name service := by
  unfold ofService
  constructor
  · intro h
    cases h with
    | annotated hhost => rw [annotated_host_iff.mpr hhost]
    | balanced hbare hfirst =>
        rw [annotated_host_eq_none_iff.mpr hbare, first_ingress_iff.mpr hfirst]
    | bare hbare hnone =>
        rw [annotated_host_eq_none_iff.mpr hbare, first_ingress_eq_none_iff.mpr hnone]
  · rintro rfl
    cases hhost : annotatedHost? service with
    | some host => exact .annotated (annotated_host_iff.mp hhost)
    | none =>
        have hbare := annotated_host_eq_none_iff.mp hhost
        cases hfirst : firstIngress? service with
        | some first => exact .balanced hbare (first_ingress_iff.mp hfirst)
        | none => exact .bare hbare (first_ingress_eq_none_iff.mp hfirst)

/-! ## The order of services -/

/-- The order of texts that may be absent. -/
theorem text_le_iff (a b : Option String) : textLe a b = true ↔ rank a ≤ rank b := by
  cases a with
  | none => exact iff_of_true rfl bot_le
  | some a =>
      cases b with
      | none => exact iff_of_false Bool.false_ne_true (WithBot.not_coe_le_bot a)
      | some b => exact decide_eq_true_iff.trans WithBot.coe_le_coe.symm

/-- Texts of one rank are the same. -/
theorem rank_inj {a b : Option String} : rank a = rank b ↔ a = b := by
  cases a <;> cases b <;> simp [rank]

/-- Services are sorted by their places. -/
theorem service_le_iff (a b : Service) : serviceLe a b = true ↔ place a ≤ place b := by
  unfold serviceLe place
  rw [Prod.Lex.toLex_le_toLex]
  by_cases h : a.metadata.namespaceName = b.metadata.namespaceName
  · rw [if_pos h, text_le_iff]
    simp [h]
  · rw [if_neg h, text_le_iff]
    simp [rank_inj, h, lt_iff_le_and_ne]

section Choice

variable {services others : List Service} {service : Service}

/-- The service that counts is the least by its place. -/
theorem exposing_eq_some_iff (hplaces : (services.map place).Nodup) :
    exposing? services = some service ↔
      service ∈ services ∧ ∀ other ∈ services, place service ≤ place other :=
  head_mergeSort_eq_some_iff service_le_iff hplaces

/-- None counts where there is none. -/
theorem exposing_eq_none_iff : exposing? services = none ↔ services = [] := by
  rw [exposing?, List.head?_eq_none_iff, ← List.length_eq_zero_iff, List.length_mergeSort,
    List.length_eq_zero_iff]

/-- The same service counts in whatever order they are listed. -/
theorem exposing_of_perm (hplaces : (services.map place).Nodup) (h : others.Perm services) :
    exposing? others = exposing? services := by
  refine Option.ext fun service => ?_
  rw [exposing_eq_some_iff ((h.map place).nodup_iff.mpr hplaces), exposing_eq_some_iff hplaces]
  simp only [h.mem_iff]

end Choice

/-! ## The answer -/

/-- The labels that a service of a class has to have. -/
def classSelector (name : String) : Selector :=
  (Selector.everything.push ⟨managedByLabel, .equals, ["envoy-gateway"]⟩).push
    ⟨owningClassLabel, .equals, [name]⟩

/-- A class with a name that a label can have is selected by it. -/
theorem selector_of_valid {name : String} (hname : Label.validValue name.toList = true) :
    selector name = .ok (classSelector name) := by
  have hmanaged : labelEquals managedByLabel "envoy-gateway" = _ :=
    label_equals_of_valid (by decide) (by decide)
  have howned : labelEquals owningClassLabel name = _ :=
    label_equals_of_valid (by decide) hname
  rw [selector, hmanaged, howned]
  rfl

/-- Any other name is refused. -/
theorem selector_of_invalid {name : String} (hname : Label.validValue name.toList = false) :
    selector name = .error (.badRequest ("invalid label value " ++ Text.quoted name)) := by
  have hmanaged : labelEquals managedByLabel "envoy-gateway" = _ :=
    label_equals_of_valid (by decide) (by decide)
  have howned : labelEquals owningClassLabel name = _ :=
    label_equals_of_invalid (by decide) hname
  rw [selector, hmanaged, howned]
  rfl

variable {cluster : MemoryCluster} {ctx : RequestContext} {w : World} {name : String} {cls : Json}
  {resource : ResourceId}

/-- The services that are listed for a class. -/
def listed (cluster : MemoryCluster) (cls : Json) (name : String) : List Service :=
  cluster.selectServices (nonEmpty? (parametersNamespace cls)) (classSelector name)

/-- What is told of a class: how the service that counts exposes it, if there is one. -/
def told (cluster : MemoryCluster) (cls : Json) (name : String) : GatewayInfo :=
  (exposing? (listed cluster cls name)).elim { className := name } (ofService name)

/-- The services that are listed for a class are those that expose it. -/
theorem mem_listed_iff {service : Service} :
    service ∈ listed cluster cls name ↔ service ∈ cluster.services ∧ Exposes cls name service := by
  have hlabel (key : String) : Entries.get? key (service.metadata.labels.getD []) =
      label? key service := by
    unfold label?
    cases service.metadata.labels <;> rfl
  have hscope : (nonEmpty? (parametersNamespace cls)).all
        (service.metadata.namespaceName = some ·) = true ↔
      (parametersNamespace cls ≠ "" →
        service.metadata.namespaceName = some (parametersNamespace cls)) := by
    unfold nonEmpty?
    split <;> simp_all
  have hholds : (classSelector name).holdsOpt service.metadata.labels = true ↔
      label? managedByLabel service = some "envoy-gateway" ∧
        label? owningClassLabel service = some name := by
    unfold Selector.holdsOpt classSelector
    rw [Selector.push_holds_iff, Selector.push_holds_iff, holds_equals_iff, holds_equals_iff,
      hlabel, hlabel]
    simp
  unfold listed MemoryCluster.selectServices
  rw [List.mem_filter, Bool.and_eq_true, hscope, hholds]
  exact and_congr_right fun _ =>
    ⟨fun ⟨hnamespace, hmanaged, howned⟩ => ⟨hmanaged, howned, hnamespace⟩,
      fun h => ⟨h.namespaced, h.managed, h.owned⟩⟩

/-- A class that a cluster holds is one of a resource that it serves. -/
theorem exists_served_of_held
    (hclass : (cluster.heldOf group "GatewayClass").find? (fun object => objectName object = name) =
      some cls) :
    ∃ resource, Mapper.byKind? cluster.resources group "GatewayClass" = some resource ∧
      cluster.findObject resource none name = .ok cls := by
  cases hserved : Mapper.byKind? cluster.resources group "GatewayClass" with
  | none =>
      rw [MemoryCluster.held_of_unserved hserved] at hclass
      cases hclass
  | some resource =>
      rw [MemoryCluster.held_of_served hserved] at hclass
      exact ⟨resource, rfl, by rw [MemoryCluster.find_object_eq, hclass, Option.elim_some]⟩

section Run

variable (hserved : Mapper.byKind? cluster.resources group "GatewayClass" = some resource)
  (hfound : cluster.findObject resource none name = .ok cls)

/-- The world after the class was found. -/
def classFound (cluster : MemoryCluster) (resource : ResourceId) (name : String) (w : World) :
    World :=
  cluster.answered (.get resource none name)
    (cluster.answered (.resolveKind group "GatewayClass") w)

include hserved hfound

/-- A class is found by two questions. -/
theorem class_is_found (hlive : ctx.abort? (w.now + 2 * cluster.latency) = none) :
    (Cluster.memory cluster).resolveKind ctx group "GatewayClass" w =
        (.ok (some resource), cluster.answered (.resolveKind group "GatewayClass") w) ∧
      (((Cluster.memory cluster).getObject ctx resource none name).mapError (classError name))
          (cluster.answered (.resolveKind group "GatewayClass") w) =
        (.ok cls, classFound cluster resource name w) := by
  rw [Nat.two_mul, ← Nat.add_assoc] at hlive
  constructor
  · refine MemoryCluster.answer_eq_ok_iff.mpr ⟨?_, by rw [hserved], rfl⟩
    exact RequestContext.abort_eq_none_of_le (Nat.le_add_right _ _) hlive
  · refine Action.map_error_eq_ok_iff.mpr (MemoryCluster.answer_eq_ok_iff.mpr ⟨hlive, hfound, rfl⟩)

/-- A class whose name no label can have as its value is refused once it is found. -/
theorem get_of_invalid (hlive : ctx.abort? (w.now + 2 * cluster.latency) = none)
    (hname : Label.validValue name.toList = false) :
    get (.memory cluster) ctx name w =
      (.error (.badRequest ("invalid label value " ++ Text.quoted name)),
        classFound cluster resource name w) := by
  obtain ⟨hresolved, hgot⟩ := class_is_found hserved hfound hlive
  unfold get
  simp only [Action.bind_apply, hresolved, hgot, selector_of_invalid hname, Action.of_result_apply]

/-- Any other class is answered by one more question, from the services that are listed. -/
theorem get_of_valid (hlive : ctx.abort? (w.now + 3 * cluster.latency) = none)
    (hname : Label.validValue name.toList = true) :
    get (.memory cluster) ctx name w =
      (.ok (told cluster cls name),
        cluster.answered (.services (nonEmpty? (parametersNamespace cls)) (classSelector name))
          (classFound cluster resource name w)) := by
  have hsoon : ctx.abort? (w.now + 2 * cluster.latency) = none :=
    RequestContext.abort_eq_none_of_le (by omega) hlive
  obtain ⟨hresolved, hgot⟩ := class_is_found hserved hfound hsoon
  have htime : (classFound cluster resource name w).now + cluster.latency =
      w.now + 3 * cluster.latency := by
    simp only [classFound, MemoryCluster.answered]
    omega
  have hlisted : (Cluster.memory cluster).services ctx
      (nonEmpty? (cls.textAt ["spec", "parametersRef", "namespace"])) (classSelector name)
      (classFound cluster resource name w) = (.ok (listed cluster cls name), _) :=
    MemoryCluster.answer_eq_ok_iff.mpr ⟨htime ▸ hlive, rfl, rfl⟩
  unfold get
  simp only [Action.bind_apply, hresolved, hgot, selector_of_valid hname, Action.of_result_apply,
    hlisted]
  unfold told
  cases exposing? (listed cluster cls name) <;> rfl

end Run

/-- Services in different places are so as well where some of them are listed. -/
theorem nodup_listed (hplaces : (cluster.services.map place).Nodup) :
    ((listed cluster cls name).map place).Nodup :=
  hplaces.sublist (List.filter_sublist.map _)

/-- The set of services tells what is made of the list of them. -/
theorem tells_iff (hplaces : (cluster.services.map place).Nodup) {info : GatewayInfo} :
    Tells cluster.services cls name info ↔ info = told cluster cls name := by
  unfold told
  constructor
  · intro h
    cases h with
    | @exposed service _ hmem hexposes hleast hinfo =>
        have hfirst := (exposing_eq_some_iff (nodup_listed hplaces)).mpr
          ⟨mem_listed_iff.mpr ⟨hmem, hexposes⟩, fun other hother =>
            hleast other (mem_listed_iff.mp hother).1 (mem_listed_iff.mp hother).2⟩
        rw [hfirst, Option.elim_some]
        exact describes_iff.mp hinfo
    | unexposed hnone =>
        have hempty : listed cluster cls name = [] :=
          List.eq_nil_iff_forall_not_mem.mpr fun service hservice =>
            hnone service (mem_listed_iff.mp hservice).1 (mem_listed_iff.mp hservice).2
        rw [exposing_eq_none_iff.mpr hempty, Option.elim_none]
  · rintro rfl
    cases hfirst : exposing? (listed cluster cls name) with
    | none =>
        rw [exposing_eq_none_iff] at hfirst
        refine .unexposed fun service hmem hexposes => ?_
        have hservice := mem_listed_iff.mpr ⟨hmem, hexposes⟩
        rw [hfirst] at hservice
        exact List.not_mem_nil hservice
    | some service =>
        obtain ⟨hmem, hleast⟩ := (exposing_eq_some_iff (nodup_listed hplaces)).mp hfirst
        obtain ⟨hservice, hexposes⟩ := mem_listed_iff.mp hmem
        exact .exposed hservice hexposes
          (fun other hother hothers => hleast other (mem_listed_iff.mpr ⟨hother, hothers⟩))
          (describes_iff.mpr rfl)

/-- On a cluster that holds a class with a name that a label can have, and services in different
places, a request that runs long enough is told what the set of services tells: the least service
that exposes the class is described, or there is none and nothing is told but the name. The same is
answered in whatever order the services are listed. -/
theorem least_service_is_described (cluster : MemoryCluster) (ctx : RequestContext) (w : World)
    (hlive : ctx.abort? (w.now + 3 * cluster.latency) = none) (name : String)
    (hname : Label.validValue name.toList = true) (cls : Json)
    (hclass : (cluster.heldOf group "GatewayClass").find? (fun object => objectName object = name) =
      some cls)
    (hplaces : (cluster.services.map place).Nodup) :
    (∃ info, (get (.memory cluster) ctx name w).1 = .ok info ∧
        ∀ other, Tells cluster.services cls name other ↔ other = info) ∧
      ∀ services : List Service, services.Perm cluster.services →
        get (.memory { cluster with services := services }) ctx name w =
          get (.memory cluster) ctx name w := by
  obtain ⟨resource, hserved, hfound⟩ := exists_served_of_held hclass
  have hanswer := get_of_valid hserved hfound hlive hname
  refine ⟨⟨_, congrArg (·.1) hanswer, fun other => tells_iff hplaces⟩, fun services hperm => ?_⟩
  have hagain : get (.memory { cluster with services := services }) ctx name w = _ :=
    get_of_valid hserved hfound hlive hname
  have hlisted : (listed { cluster with services := services } cls name).Perm
      (listed cluster cls name) := hperm.filter _
  have htold : told { cluster with services := services } cls name = told cluster cls name := by
    rw [told, told, exposing_of_perm (nodup_listed hplaces) hlisted]
  rw [hagain, hanswer, htold]
  rfl

/-! ## Two gateways -/

/-- A gateway class without parameters. -/
def gatewayClass (name : String) : Json :=
  .object [("apiVersion", .str "gateway.networking.k8s.io/v1"), ("kind", .str "GatewayClass"),
    ("metadata", .object [("name", .str name)])]

/-- A service of a gateway class, with two addresses of a load balancer and perhaps an annotated host
name. -/
def envoyService (ns cls : String) (host : Option String) : Service where
  metadata := {
    name := some "envoy"
    namespaceName := some ns
    labels := some [(managedByLabel, "envoy-gateway"), (owningClassLabel, cls)]
    annotations := host.map fun text => Entries.set hostnameAnnotation text [] }
  spec := some { type := some "LoadBalancer" }
  status := some { loadBalancer := some {
    ingress := some [{ ip := some "10.0.0.7", hostname := some "lb.example.com" },
      { ip := some "10.0.0.8" }] } }

/-- A cluster with two services of one class and one of another class. -/
def twoGateways : MemoryCluster where
  resources := [gatewayClasses]
  objects := [gatewayClass "inner", gatewayClass "outer"]
  services := [envoyService "west" "outer" none,
    envoyService "east" "outer" (some "gw.example.com"),
    envoyService "core" "inner" none]

/-- The services are in different places. -/
theorem nodup_two_gateways : (twoGateways.services.map place).Nodup := by
  have hplace {a b : Service} (h : a.metadata.namespaceName ≠ b.metadata.namespaceName) :
      place a ≠ place b :=
    fun heq => h (rank_inj.mp (congrArg (fun p => (ofLex p).1) heq))
  simp only [twoGateways, List.map_cons, List.map_nil, List.nodup_cons, List.mem_cons,
    List.not_mem_nil, or_false, not_or, not_false_eq_true, List.nodup_nil, and_true]
  exact ⟨⟨hplace (by decide), hplace (by decide)⟩, hplace (by decide)⟩

/-- Of the two services of the outer class the one in the east counts, with its annotated host name.
The inner class has one service, without an annotation: the first address of the load balancer
counts. -/
theorem gateways_are_described :
    RequestContext.abort? {} (0 + 3 * twoGateways.latency) = none ∧
      (twoGateways.services.map place).Nodup ∧
      (Label.validValue "outer".toList = true ∧
        (twoGateways.heldOf group "GatewayClass").find? (fun object => objectName object = "outer") =
          some (gatewayClass "outer") ∧
        (get (.memory twoGateways) {} "outer" {}).1 = .ok {
          className := "outer", serviceType := "LoadBalancer", hostName := "gw.example.com" }) ∧
      Label.validValue "inner".toList = true ∧
        (twoGateways.heldOf group "GatewayClass").find? (fun object => objectName object = "inner") =
          some (gatewayClass "inner") ∧
        (get (.memory twoGateways) {} "inner" {}).1 = .ok {
          className := "inner", serviceType := "LoadBalancer", hostName := "lb.example.com",
          ip := "10.0.0.7" } := by
  have htold {name : String} {service : Service} {info : GatewayInfo}
      (hname : Label.validValue name.toList = true)
      (hclass : (twoGateways.heldOf group "GatewayClass").find?
        (fun object => objectName object = name) = some (gatewayClass name))
      (hmem : service ∈ twoGateways.services) (hexposes : Exposes (gatewayClass name) name service)
      (hfirst : ∀ other ∈ twoGateways.services,
        label? owningClassLabel other = some name → serviceLe service other = true)
      (hdescribes : Describes name service info) :
      (get (.memory twoGateways) {} name {}).1 = .ok info := by
    obtain ⟨⟨told, hget, htells⟩, -⟩ := least_service_is_described twoGateways {} {} rfl name hname
      (gatewayClass name) hclass nodup_two_gateways
    have hleast (other : Service) (hother : other ∈ twoGateways.services)
        (hothers : Exposes (gatewayClass name) name other) : place service ≤ place other :=
      (service_le_iff _ _).mp (hfirst other hother hothers.owned)
    rw [hget, (htells info).mp (.exposed hmem hexposes hleast hdescribes)]
  have hunannotated : ∀ host, ¬ Annotated (envoyService "core" "inner" none) host := by
    rintro host ⟨annotations, hannotations, -⟩
    cases hannotations
  refine ⟨rfl, nodup_two_gateways, ⟨by decide, by decide, ?_⟩, by decide, by decide, ?_⟩
  · exact htold (by decide) (by decide) (List.mem_cons_of_mem _ List.mem_cons_self)
      ⟨rfl, rfl, fun h => absurd rfl h⟩ (by decide) (.annotated ⟨_, rfl, rfl⟩)
  · exact htold (by decide) (by decide)
      (List.mem_cons_of_mem _ (List.mem_cons_of_mem _ List.mem_cons_self))
      ⟨rfl, rfl, fun h => absurd rfl h⟩ (by decide) (.balanced hunannotated ⟨_, _, _, rfl, rfl, rfl⟩)

end GatewayInfo

end VirtualApi

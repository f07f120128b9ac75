import VirtualApi.Cluster.Site
import VirtualApi.Proofs.Json.Ordered
import VirtualApi.Proofs.Quantity.Sums
import VirtualApi.Proofs.Request.Action
import VirtualApi.Proofs.Request.Interleaving

/-!
# Visits to a site

A site is captured once. Every visit after that lists the nodes of the cluster anew, and answers
with the site as it was captured and what those nodes report, added up. Between two visits anything
may happen, and each one may come from another request. The main theorem, `visits_report`, says what
the answers of every run of visits are: who the site is stays, what it has is what the nodes have
that are listed then, and no visit leaves anything to the next one.
-/

namespace VirtualApi

open ResourceList

/-! ## What nodes report -/

/-- The two lists of resources that a node reports. -/
inductive NodeReport where
  | capacity
  | allocatable
deriving DecidableEq, Repr

namespace NodeReport

/-- The list that a node reports, if it does. -/
def ofNode : NodeReport → Node → Option ResourceList
  | .capacity, node => node.status.bind (·.capacity)
  | .allocatable, node => node.status.bind (·.allocatable)

/-- The lists of the nodes that report one. -/
def lists (report : NodeReport) (nodes : List Node) : List ResourceList :=
  nodes.filterMap report.ofNode

/-- What the nodes of a site have together. -/
def total : NodeReport → NodeStats → ResourceList
  | .capacity, stats => stats.capacity
  | .allocatable, stats => stats.allocatable

/-- The lists of nodes in another order are the same lists in another order. -/
theorem lists_perm {order nodes : List Node} (report : NodeReport) (h : order.Perm nodes) :
    (report.lists order).Perm (report.lists nodes) := by
  unfold lists
  exact h.filterMap _

/-- Statistics can have any count, and for each of the two lists one that there is. -/
theorem exists_stats {P : NodeReport → ResourceList → Prop} (count : Int)
    (h : ∀ report, ∃ list, P report list) :
    ∃ stats : NodeStats, stats.count = count ∧ ∀ report, P report (report.total stats) := by
  obtain ⟨capacity, hcapacity⟩ := h .capacity
  obtain ⟨allocatable, hallocatable⟩ := h .allocatable
  refine ⟨⟨count, capacity, allocatable⟩, rfl, fun report => ?_⟩
  cases report with
  | capacity => exact hcapacity
  | allocatable => exact hallocatable

/-- Some node reports a text that is no quantity. -/
def Malformed (nodes : List Node) : Prop :=
  ∃ (report : NodeReport) (list : ResourceList), list ∈ report.lists nodes ∧
    ∃ entry ∈ list, ∀ amount, ¬Quantity.Reads entry.2 amount

end NodeReport

namespace Node

/-- The lists of a node are in name order. -/
def Ordered (node : Node) : Prop :=
  ∀ (report : NodeReport) (list : ResourceList), report.ofNode node = some list → list.Ordered

/-- The lists of a status that is read are in name order. -/
theorem ordered_of_status {value : Json} {node : Node} {status : NodeStatus}
    (hvalue : value.Ordered) (h : statusOfJson? value = some status)
    (hstatus : node.status = some status) : node.Ordered := by
  cases value with
  | obj given =>
      simp only [statusOfJson?, Option.bind_eq_bind, Option.bind_eq_some_iff, Option.pure_def] at h
      obtain ⟨capacity, hcapacity, allocatable, hallocatable, other, -, h⟩ := h
      cases h
      intro report list hlist
      cases report with
      | capacity =>
          simp only [NodeReport.ofNode, hstatus, Option.bind_some] at hlist
          subst hlist
          obtain ⟨value, hordered, hread⟩ := Json.ordered_of_optional hvalue hcapacity
          exact Json.ordered_of_map hordered hread
      | allocatable =>
          simp only [NodeReport.ofNode, hstatus, Option.bind_some] at hlist
          subst hlist
          obtain ⟨value, hordered, hread⟩ := Json.ordered_of_optional hvalue hallocatable
          exact Json.ordered_of_map hordered hread
  | _ => cases h

/-- The lists of a node that is read are in name order. -/
theorem ordered_of_json {value : Json} {node : Node} (hvalue : value.Ordered)
    (h : ofJson? value = some node) : node.Ordered := by
  cases value with
  | obj given =>
      simp only [ofJson?, Option.bind_eq_bind, Option.pure_def] at h
      split at h
      · cases h
      · simp only [Option.bind_eq_some_iff] at h
        obtain ⟨metadata, -, spec, -, status, hstatus, hnode⟩ := h
        cases hnode
        cases status with
        | none =>
            intro report list hlist
            cases report <;> cases hlist
        | some status =>
            obtain ⟨value, hordered, hread⟩ := Json.ordered_of_optional hvalue hstatus
            exact ordered_of_status hordered hread rfl
  | _ => cases h

end Node

namespace NodeStats

variable {stats next result : NodeStats} {node : Node} {nodes order : List Node}

/-! ## Adding up -/

/-- Statistics are the same exactly when they have the same count and the same two lists. -/
theorem pure_eq_ok_iff : (pure stats : Except Quantity.Failure NodeStats) = .ok next ↔
    next.count = stats.count ∧ ∀ report : NodeReport,
      (.ok (report.total stats) : Except Quantity.Failure ResourceList) =
        .ok (report.total next) := by
  constructor
  · intro h
    cases h
    exact ⟨rfl, fun _ => rfl⟩
  · rintro ⟨hcount, hlists⟩
    have hcapacity : stats.capacity = next.capacity := Except.ok.inj (hlists .capacity)
    have hallocatable : stats.allocatable = next.allocatable := Except.ok.inj (hlists .allocatable)
    cases stats
    cases next
    cases hcount
    cases hcapacity
    cases hallocatable
    rfl

/-- Adding a node adds its lists to what there is, each to its own. -/
theorem add_node_eq_ok_iff : stats.addNode node = .ok next ↔
    next.count = stats.count ∧ ∀ report : NodeReport,
      addList (report.total stats) (report.ofNode node) = .ok (report.total next) := by
  obtain ⟨metadata, spec, status⟩ := node
  cases status with
  | none =>
      have hnone (report : NodeReport) : report.ofNode ⟨metadata, spec, none⟩ = none := by
        cases report <;> rfl
      simp only [hnone]
      exact pure_eq_ok_iff
  | some status =>
      unfold addNode
      dsimp only
      rw [result_bind_eq_ok_iff]
      constructor
      · rintro ⟨capacity, hcapacity, h⟩
        obtain ⟨allocatable, hallocatable, h⟩ := result_bind_eq_ok_iff.mp h
        cases h
        exact ⟨rfl, fun report => by cases report <;> assumption⟩
      · rintro ⟨hcount, hlists⟩
        refine ⟨_, hlists .capacity, result_bind_eq_ok_iff.mpr ⟨_, hlists .allocatable, ?_⟩⟩
        cases next
        cases hcount
        rfl

/-- Adding the lists of a node and of those after it is adding the list of the node, if there is
one, and then the others. -/
theorem foldlM_lists_cons (report : NodeReport) (node : Node) (nodes : List Node)
    (list : ResourceList) :
    (report.lists (node :: nodes)).foldlM add list =
      addList list (report.ofNode node) >>= (report.lists nodes).foldlM add := by
  unfold NodeReport.lists
  rw [List.filterMap_cons]
  cases report.ofNode node with
  | none => rfl
  | some own => exact List.foldlM_cons

/-- Adding nodes one after the other adds up their lists, each kind for itself. -/
theorem foldlM_add_node_eq_ok_iff : nodes.foldlM addNode stats = .ok result ↔
    result.count = stats.count ∧ ∀ report : NodeReport,
      (report.lists nodes).foldlM add (report.total stats) = .ok (report.total result) := by
  induction nodes generalizing stats with
  | nil =>
      rw [List.foldlM_nil]
      exact pure_eq_ok_iff
  | cons node rest ih =>
      rw [List.foldlM_cons, result_bind_eq_ok_iff]
      simp only [foldlM_lists_cons, result_bind_eq_ok_iff, add_node_eq_ok_iff, ih]
      constructor
      · rintro ⟨next, ⟨hcount, hfirst⟩, hcounts, hrest⟩
        exact ⟨hcounts.trans hcount, fun report => ⟨_, hfirst report, hrest report⟩⟩
      · rintro ⟨hcount, hlists⟩
        -- what both lists come to after the first node makes up the statistics there
        obtain ⟨next, hnext, hboth⟩ := NodeReport.exists_stats stats.count hlists
        exact ⟨next, ⟨hnext, fun report => (hboth report).1⟩, hcount.trans hnext.symm,
          fun report => (hboth report).2⟩

/-- From nothing, the statistics of nodes are their number and the sums of their lists. -/
theorem add_nodes_eq_ok_iff : ({} : NodeStats).addNodes nodes = .ok result ↔
    result.count = countOf nodes ∧ ∀ report : NodeReport,
      sum (report.lists nodes) = .ok (report.total result) := by
  have hempty (report : NodeReport) : report.total { count := countOf nodes } = [] := by
    cases report <;> rfl
  unfold addNodes
  rw [foldlM_add_node_eq_ok_iff]
  simp only [hempty]
  rfl

/-- As long as 32 bits hold it, the count is the number of nodes. -/
theorem count_of_eq (h : nodes.length ≤ 2147483647) : countOf nodes = nodes.length := by
  unfold countOf
  exact Int.bmod_eq_of_le (by omega) (by omega)

/-- What the statistics of a site say of its nodes: how many there are, and the exact sum of what
they report, name by name. -/
structure TotalsOf (nodes : List Node) (stats : NodeStats) : Prop where
  count : stats.count = nodes.length
  sums : ∀ report : NodeReport, SumOf (report.lists nodes) (report.total stats)

/-- Statistics that give the same amounts, under the same names. -/
def SameAmounts (first second : NodeStats) : Prop :=
  ∀ report : NodeReport, ∃ amounts, Gives Quantity.Reads (report.total first) amounts ∧
    Gives Quantity.Reads (report.total second) amounts

/-- What is added up from nothing is exact. -/
theorem totals_of_add_nodes (hlength : nodes.length ≤ 2147483647)
    (hordered : ∀ node ∈ nodes, node.Ordered) (h : ({} : NodeStats).addNodes nodes = .ok result) :
    result.TotalsOf nodes := by
  obtain ⟨hcount, hsums⟩ := add_nodes_eq_ok_iff.mp h
  refine ⟨hcount.trans (count_of_eq hlength), fun report => sum_of_lists ?_ (hsums report)⟩
  intro list hlist
  obtain ⟨node, hnode, hreport⟩ := List.mem_filterMap.mp hlist
  exact hordered node hnode report list hreport

/-- A text that is no quantity is not added up. -/
theorem add_nodes_of_malformed (h : NodeReport.Malformed nodes) :
    ({} : NodeStats).addNodes nodes ≠ .ok result := by
  intro hresult
  obtain ⟨report, list, hlist, entry, hentry, hmalformed⟩ := h
  obtain ⟨before, after, hstep⟩ :=
    exists_step_of_mem ((add_nodes_eq_ok_iff.mp hresult).2 report) hlist
  obtain ⟨amount, hreads⟩ := reads_of_merge hstep hentry
  exact hmalformed amount hreads

/-- Nodes whose amounts stay within the range together are added up, in any order. -/
theorem add_nodes_of_bounded (hbounded : ∀ report : NodeReport, Bounded (report.lists nodes))
    (horder : order.Perm nodes) :
    ∃ stats, ({} : NodeStats).addNodes order = .ok stats ∧ ∀ report : NodeReport,
      Gives Quantity.Reads (report.total stats) fun name =>
        total? (mentions (report.lists nodes) name) := by
  have hsum (report : NodeReport) : ∃ total, sum (report.lists order) = .ok total ∧
      Gives Quantity.Reads total fun name => total? (mentions (report.lists nodes) name) := by
    obtain ⟨total, hresult, -, hgives⟩ :=
      pools_of_fold add_pooling (hbounded report) (report.lists_perm horder)
    simp only [pooled_add] at hgives
    exact ⟨total, hresult, hgives⟩
  obtain ⟨stats, hcount, hboth⟩ := NodeReport.exists_stats (countOf order) hsum
  exact ⟨stats, add_nodes_eq_ok_iff.mpr ⟨hcount, fun report => (hboth report).1⟩,
    fun report => (hboth report).2⟩

end NodeStats

/-! ## Capturing and visiting -/

/-- Who a site is, from its capture on. -/
structure SiteIdentity where
  stamp : SiteStamp
  clusterName : String
  clusterUid : String
  version : VersionInfo

namespace SiteInfo

/-- A site answers to an identity, and names no product. -/
structure Bears (identity : SiteIdentity) (site : SiteInfo) : Prop where
  uid : site.metadata.uid = some identity.stamp.uid
  created : site.metadata.creationTimestamp = some identity.stamp.created
  clusterName : site.kubernetes.clusterName = identity.clusterName
  clusterUid : site.kubernetes.clusterUid = identity.clusterUid
  version : site.kubernetes.version = some identity.version
  product : site.product = none

/-- A snapshot has this identity, and no statistics yet. -/
structure Captured (identity : SiteIdentity) (snapshot : SiteInfo) : Prop where
  bears : snapshot.Bears identity
  stats : snapshot.kubernetes.nodeStats = {}

variable {cluster : Cluster} {ctx : RequestContext} {clusterName : String} {stamp : SiteStamp}
  {identity : SiteIdentity} {snapshot site : SiteInfo} {nodes order : List Node} {w final : World}

/-- A capture that succeeds has asked the cluster for its version and its namespaces. -/
theorem captured_of_capture (h : capture cluster ctx clusterName stamp w = (.ok snapshot, final)) :
    ∃ version namespaces middle, cluster.version ctx w = (.ok version, middle) ∧
      cluster.namespaces ctx .everything middle = (.ok namespaces, final) ∧
      snapshot.Captured ⟨stamp, clusterName, clusterUidOf namespaces, version⟩ := by
  obtain ⟨version, middle, hversion, h⟩ := Action.bind_eq_ok_iff.mp h
  obtain ⟨namespaces, last, hnamespaces, h⟩ := Action.bind_eq_ok_iff.mp h
  cases h
  exact ⟨version, namespaces, middle, hversion, hnamespaces, ⟨rfl, rfl, rfl, rfl, rfl, rfl⟩, rfl⟩

/-- With nodes, a snapshot has their statistics from nothing and stays the same otherwise. -/
theorem Captured.with_nodes_eq_ok_iff (h : snapshot.Captured identity) :
    snapshot.withNodes nodes = .ok site ↔ ∃ stats, ({} : NodeStats).addNodes nodes = .ok stats ∧
      site = { snapshot with kubernetes := { snapshot.kubernetes with nodeStats := stats } } := by
  unfold withNodes
  rw [h.stats]
  cases ({} : NodeStats).addNodes nodes with
  | error failure =>
      constructor
      · intro h
        cases h
      · rintro ⟨stats, h, -⟩
        cases h
  | ok stats =>
      constructor
      · intro h
        cases h
        exact ⟨stats, rfl, rfl⟩
      · rintro ⟨stats, h, rfl⟩
        cases h
        rfl

/-- Where nodes do not add up, the error is an internal one. -/
theorem with_nodes_error {e : ApiError} (h : snapshot.withNodes nodes = .error e) :
    ∃ failure : Quantity.Failure, e = .internal failure.message := by
  unfold withNodes at h
  split at h
  · cases h
  · cases h
    exact ⟨_, rfl⟩

/-- Where a node reports a text that is no quantity, nodes do not add up. -/
theorem Captured.with_nodes_of_malformed (h : snapshot.Captured identity)
    (hmalformed : NodeReport.Malformed nodes) :
    ∃ failure : Quantity.Failure,
      snapshot.withNodes nodes = .error (.internal failure.message) := by
  cases hresult : snapshot.withNodes nodes with
  | error e =>
      obtain ⟨failure, rfl⟩ := with_nodes_error hresult
      exact ⟨failure, rfl⟩
  | ok site =>
      obtain ⟨stats, hstats, -⟩ := h.with_nodes_eq_ok_iff.mp hresult
      exact absurd hstats (NodeStats.add_nodes_of_malformed hmalformed)

/-- With nodes, a snapshot keeps its identity. -/
theorem Captured.bears_of_with_nodes (h : snapshot.Captured identity)
    (hsite : snapshot.withNodes nodes = .ok site) : site.Bears identity := by
  obtain ⟨stats, -, rfl⟩ := h.with_nodes_eq_ok_iff.mp hsite
  exact { h.bears with }

/-- The site as it is now is the snapshot with the nodes that are listed now. -/
theorem create_apply (cluster : Cluster) (snapshot : SiteInfo) (ctx : RequestContext) (w : World) :
    (create cluster snapshot ctx w).1 = (cluster.nodes ctx w).1 >>= snapshot.withNodes := by
  unfold create
  rw [Action.bind_apply]
  rcases cluster.nodes ctx w with ⟨_ | nodes, next⟩ <;> rfl

/-! ## Runs of visits -/

/-- A visit: the nodes that were listed, and the site that was answered. -/
structure Visit where
  listed : ApiResult (List Node)
  outcome : ApiResult SiteInfo

/-- What can happen next: a request is answered from the snapshot, by what the cluster is then, or
something happens elsewhere. -/
inductive Step (snapshot : SiteInfo) : World → Option Visit → World → Prop where
  | visit (cluster : Cluster) (ctx : RequestContext) (w : World) :
      Step snapshot w
        (some ⟨(cluster.nodes ctx w).1, (create cluster snapshot ctx w).1⟩)
        (create cluster snapshot ctx w).2
  | elsewhere (w next : World) : Step snapshot w none next

variable {visit : Visit} {history : List (Option Visit)}

/-- A visit answers with the snapshot and the nodes that it lists. -/
theorem Step.outcome_eq {next : World} (h : Step snapshot w (some visit) next) :
    visit.outcome = visit.listed >>= snapshot.withNodes := by
  cases h with
  | visit cluster ctx => exact create_apply cluster snapshot ctx w

/-- So does every visit of a run, whatever came before it. -/
theorem outcome_of_run (hrun : Run (Step snapshot) w history final)
    (hvisit : some visit ∈ history) : visit.outcome = visit.listed >>= snapshot.withNodes := by
  obtain ⟨before, after, rfl⟩ := List.append_of_mem hvisit
  obtain ⟨state, next, -, hstep, -⟩ := hrun.around
  exact hstep.outcome_eq

/-- Two answers that nodes in two orders come to: they count the same nodes, and if the amounts of
these stay within the range together, both are sites with the same amounts. -/
structure Alike (nodes : List Node) (first second : ApiResult SiteInfo) : Prop where
  count : ∀ site other, first = .ok site → second = .ok other →
    site.kubernetes.nodeStats.count = other.kubernetes.nodeStats.count
  amounts : (∀ report : NodeReport, Bounded (report.lists nodes)) →
    ∃ site other, first = .ok site ∧ second = .ok other ∧
      site.kubernetes.nodeStats.SameAmounts other.kubernetes.nodeStats

/-- The order of the nodes does not count. -/
theorem Captured.alike_of_perm (h : snapshot.Captured identity) (horder : order.Perm nodes) :
    Alike nodes (snapshot.withNodes nodes) (snapshot.withNodes order) := by
  constructor
  · intro site other hsite hother
    obtain ⟨stats, hstats, rfl⟩ := h.with_nodes_eq_ok_iff.mp hsite
    obtain ⟨others, hothers, rfl⟩ := h.with_nodes_eq_ok_iff.mp hother
    dsimp only
    rw [(NodeStats.add_nodes_eq_ok_iff.mp hstats).1, (NodeStats.add_nodes_eq_ok_iff.mp hothers).1]
    unfold NodeStats.countOf
    rw [horder.length_eq]
  · intro hbounded
    obtain ⟨stats, hstats, hgives⟩ := NodeStats.add_nodes_of_bounded hbounded (.refl nodes)
    obtain ⟨others, hothers, hgivesOthers⟩ := NodeStats.add_nodes_of_bounded hbounded horder
    exact ⟨_, _, h.with_nodes_eq_ok_iff.mpr ⟨stats, hstats, rfl⟩,
      h.with_nodes_eq_ok_iff.mpr ⟨others, hothers, rfl⟩,
      fun report => ⟨_, hgives report, hgivesOthers report⟩⟩

/-- What a run of visits says of a site. -/
structure Reports (identity : SiteIdentity) (snapshot : SiteInfo) (history : List (Option Visit)) :
    Prop where
  /-- Every answer is the site of the capture. -/
  bears : ∀ visit site, some visit ∈ history → visit.outcome = .ok site → site.Bears identity
  /-- Its statistics are those of the nodes that were listed for it. -/
  totals : ∀ visit nodes site, some visit ∈ history → visit.listed = .ok nodes →
    nodes.length ≤ 2147483647 → (∀ node ∈ nodes, node.Ordered) → visit.outcome = .ok site →
    site.kubernetes.nodeStats.TotalsOf nodes
  /-- What a visit comes to is up to the nodes that it lists: a request that is the first one to
  come, at any time and from anyone, comes to the same where the same nodes are listed. -/
  fresh : ∀ visit, some visit ∈ history → ∀ (cluster : Cluster) (ctx : RequestContext) (w : World),
    (cluster.nodes ctx w).1 = visit.listed →
      (create cluster snapshot ctx w).1 = visit.outcome
  /-- A visit fails where the nodes cannot be listed, and with an internal error where they do not
  add up. -/
  failed : ∀ visit e, some visit ∈ history → visit.outcome = .error e →
    visit.listed = .error e ∨ ∃ nodes, visit.listed = .ok nodes ∧
      ∃ failure : Quantity.Failure, e = .internal failure.message
  /-- A text that is no quantity is such a failure. -/
  malformed : ∀ visit nodes, some visit ∈ history → visit.listed = .ok nodes →
    NodeReport.Malformed nodes →
    ∃ failure : Quantity.Failure, visit.outcome = .error (.internal failure.message)
  /-- Visits that list the same nodes in another order are alike. -/
  alike : ∀ first second nodes order, some first ∈ history → some second ∈ history →
    first.listed = .ok nodes → second.listed = .ok order → order.Perm nodes →
      Alike nodes first.outcome second.outcome

/-- A site is a stable stamp with live totals: in every run of visits after a capture, each answer
has the identity of the capture, and the number and the exact sums of the nodes listed for it. A
visit that fails, for a text that is no quantity or otherwise, changes no other, and the order of
the nodes does not count. -/
theorem visits_report {first : World}
    (hcapture : capture cluster ctx clusterName stamp w = (.ok snapshot, first))
    (hrun : Run (Step snapshot) first history final) :
    ∃ version namespaces middle, cluster.version ctx w = (.ok version, middle) ∧
      cluster.namespaces ctx .everything middle = (.ok namespaces, first) ∧
      Reports ⟨stamp, clusterName, clusterUidOf namespaces, version⟩ snapshot history := by
  obtain ⟨version, namespaces, middle, hversion, hnamespaces, h⟩ := captured_of_capture hcapture
  -- nothing of the run is left in what a visit comes to but the nodes that it listed
  have hlisted {visit : Visit} {nodes : List Node} (hvisit : some visit ∈ history)
      (hnodes : visit.listed = .ok nodes) : visit.outcome = snapshot.withNodes nodes := by
    rw [outcome_of_run hrun hvisit, hnodes]
    rfl
  refine ⟨version, namespaces, middle, hversion, hnamespaces, ?_⟩
  constructor
  case bears =>
    intro visit site hvisit hsite
    rw [outcome_of_run hrun hvisit] at hsite
    obtain ⟨nodes, -, hsite⟩ := result_bind_eq_ok_iff.mp hsite
    exact h.bears_of_with_nodes hsite
  case totals =>
    intro visit nodes site hvisit hnodes hlength hordered hsite
    rw [hlisted hvisit hnodes] at hsite
    obtain ⟨stats, hstats, rfl⟩ := h.with_nodes_eq_ok_iff.mp hsite
    exact NodeStats.totals_of_add_nodes hlength hordered hstats
  case fresh =>
    intro visit hvisit cluster ctx w hsame
    rw [create_apply, hsame, outcome_of_run hrun hvisit]
  case failed =>
    intro visit e hvisit he
    cases hnodes : visit.listed with
    | error other =>
        rw [outcome_of_run hrun hvisit, hnodes] at he
        cases he
        exact .inl rfl
    | ok nodes =>
        rw [hlisted hvisit hnodes] at he
        exact .inr ⟨nodes, rfl, with_nodes_error he⟩
  case malformed =>
    intro visit nodes hvisit hnodes hmalformed
    rw [hlisted hvisit hnodes]
    exact h.with_nodes_of_malformed hmalformed
  case alike =>
    intro first second nodes order hfirst hsecond hnodes horder hperm
    rw [hlisted hfirst hnodes, hlisted hsecond horder]
    exact h.alike_of_perm hperm

/-- A cluster with these nodes. -/
def smallCluster (nodes : List Node) : Cluster :=
  .memory {
    nodes := nodes
    namespaces := [{ metadata := { name := some "kube-system", uid := some "1f0c" } }] }

/-- Who the site of this cluster is. -/
def smallIdentity : SiteIdentity :=
  { stamp := ⟨"9b2e", default⟩
    clusterName := "prod"
    clusterUid := "1f0c"
    version := { major := "1", minor := "29", gitVersion := "v1.29.0" } }

/-- A node with both lists, one that reports only its capacity, and one that reports nothing. -/
def threeNodes : List Node :=
  [{ status := some { capacity := some [("cpu", "1"), ("memory", "1Gi")],
                      allocatable := some [("cpu", "900m")] } },
    { status := some { capacity := some [("cpu", "2500m")] } },
    {}]

/-- A node that reports a text that is no quantity. -/
def brokenNode : Node := { status := some { capacity := some [("cpu", "many")] } }

/-- Three visits after a capture: the second one meets a broken node, and the third one the nodes of
the first in another order. -/
theorem three_visits_report :
    ∃ snapshot first history final,
      capture (smallCluster []) {} "prod" smallIdentity.stamp {} = (.ok snapshot, first) ∧
      Run (Step snapshot) first history final ∧
      history.map (Option.map Visit.listed) =
        [some (.ok threeNodes), some (.ok [brokenNode]), some (.ok threeNodes.reverse)] ∧
      Reports smallIdentity snapshot history := by
  have hcapture : ∃ snapshot first,
      capture (smallCluster []) {} "prod" smallIdentity.stamp {} = (.ok snapshot, first) :=
    ⟨_, _, rfl⟩
  obtain ⟨snapshot, first, hcapture⟩ := hcapture
  have hstart : Run (Step snapshot) first [] first := .start
  have hsummed := hstart.step (.visit (smallCluster threeNodes) {} first)
  have hbroken := hsummed.step (.visit (smallCluster [brokenNode]) {} _)
  have hturned := hbroken.step (.visit (smallCluster threeNodes.reverse) {} _)
  obtain ⟨version, namespaces, middle, hversion, hnamespaces, hreports⟩ :=
    visits_report hcapture hturned
  refine ⟨snapshot, first, _, _, hcapture, hturned, rfl, ?_⟩
  cases hversion
  cases hnamespaces
  exact hreports

end SiteInfo

end VirtualApi

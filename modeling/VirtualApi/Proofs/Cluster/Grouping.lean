import Mathlib.Data.List.Pairwise
import Mathlib.Data.List.Perm.Basic
import VirtualApi.Proofs.Cluster.Project
import VirtualApi.Proofs.Json.Entries
import VirtualApi.Proofs.Text.Sorting
import VirtualApi.Proofs.Time.Timestamp

/-!
# Projects partition the labelled namespaces

The namespaces are put to their projects one after the other. `Grouped` is what holds of the
projects on the way, kept by each namespace (`Grouped.collect`) and so true in the end. What comes
out is a `Partition` of the namespaces that carry a project id, and there is only one
(`Partition.unique`): the order in which a cluster lists its namespaces does not count.
`projects_partition_namespaces` says it of a list of the projects of a managed cluster.
-/

namespace VirtualApi

/-! ## The earliest time -/

/-- A time is one of some times and none of them lies before it; there is none exactly when there
are no times. -/
structure Earliest (created : Option Timestamp) (times : List Timestamp) : Prop where
  mem : ∀ t, created = some t → t ∈ times
  not_before : ∀ t ∈ times, ∃ first, created = some first ∧ t.before first ≠ true

namespace Earliest

variable {created other : Option Timestamp} {times others : List Timestamp}

/-- There is no time among none. -/
theorem nil : Earliest none [] := ⟨nofun, nofun⟩

/-- There is none only where there are no times. -/
theorem eq_nil (h : Earliest none times) : times = [] := by
  refine List.eq_nil_iff_forall_not_mem.mpr fun t ht => ?_
  obtain ⟨first, hfirst, -⟩ := h.not_before t ht
  cases hfirst

/-- No time lies before the earliest one. -/
theorem not_before_first {first : Timestamp} (h : Earliest (some first) times) :
    ∀ t ∈ times, t.before first ≠ true := by
  intro t ht
  obtain ⟨found, hfound, hnot⟩ := h.not_before t ht
  cases hfound
  exact hnot

/-- A time that is not later than any is the earliest. -/
theorem of_forall {first : Timestamp} (hmem : first ∈ times)
    (h : ∀ t ∈ times, t.before first ≠ true) : Earliest (some first) times :=
  ⟨fun _ ht => Option.some.inj ht ▸ hmem, fun t ht => ⟨first, rfl, h t ht⟩⟩

/-- One more time, where there is one, is compared with the earliest so far. -/
theorem insert (h : Earliest created times) (added : Option Timestamp) :
    Earliest (ProjectMembers.earlier created added) (times ++ added.toList) := by
  cases added with
  | none =>
      rw [Option.toList_none, List.append_nil]
      cases created <;> exact h
  | some t =>
      have hmem : t ∈ times ++ (some t).toList :=
        List.mem_append_right _ (List.mem_singleton_self t)
      cases created with
      | none =>
          rw [h.eq_nil] at hmem ⊢
          exact of_forall hmem fun s hs =>
            List.mem_singleton.mp hs ▸ Timestamp.not_before_self s
      | some first =>
          have hearlier : ProjectMembers.earlier (some first) (some t) =
              if t.before first = true then some t else some first := rfl
          rw [hearlier]
          split
          · next hbefore =>
              refine of_forall hmem (List.forall_mem_append.mpr ⟨fun s hs => ?_, fun s hs => ?_⟩)
              · exact Timestamp.not_before_of_before hbefore (h.not_before_first s hs)
              · exact List.mem_singleton.mp hs ▸ Timestamp.not_before_self s
          · next hnot =>
              refine of_forall (List.mem_append_left _ (h.mem first rfl))
                (List.forall_mem_append.mpr ⟨h.not_before_first, fun s hs => ?_⟩)
              exact List.mem_singleton.mp hs ▸ hnot

/-- The earliest of some times does not depend on their order. -/
theorem eq_of_perm (h : Earliest created times) (hother : Earliest other others)
    (hperm : times.Perm others) : created = other := by
  cases created with
  | none =>
      cases other with
      | none => rfl
      | some t =>
          have hmem := hperm.mem_iff.mpr (hother.mem t rfl)
          rw [h.eq_nil] at hmem
          cases hmem
  | some first =>
      have hfirst := hperm.mem_iff.mp (h.mem first rfl)
      cases other with
      | none =>
          rw [hother.eq_nil] at hfirst
          cases hfirst
      | some second =>
          have hsecond := hperm.mem_iff.mpr (hother.mem second rfl)
          exact congrArg some (Timestamp.eq_of_not_before (hother.not_before_first first hfirst)
            (h.not_before_first second hsecond))

end Earliest

/-! ## The members of one project -/

namespace ProjectMembers

variable {members : ProjectMembers} {namespaces : List Namespace}

/-- The members of a project have the names of its namespaces and the earliest of their times. -/
structure Collected (members : ProjectMembers) (namespaces : List Namespace) : Prop where
  names : members.namespaces = namespaces.filterMap (·.metadata.name)
  created : Earliest members.created (namespaces.filterMap (·.metadata.creationTimestamp))

/-- At first there are none. -/
theorem Collected.nil : Collected {} [] := ⟨rfl, .nil⟩

/-- One more namespace belongs to them. -/
theorem Collected.insert (h : Collected members namespaces) (ns : Namespace) :
    Collected (members.insert ns) (namespaces ++ [ns]) where
  names := by
    rw [List.filterMap_append, ← h.names]
    cases hname : ns.metadata.name <;> simp [ProjectMembers.insert, hname]
  created := by
    have hadded : [ns].filterMap (·.metadata.creationTimestamp) =
        ns.metadata.creationTimestamp.toList := by
      cases htime : ns.metadata.creationTimestamp <;> simp [htime]
    rw [List.filterMap_append, hadded]
    exact h.created.insert ns.metadata.creationTimestamp

end ProjectMembers

namespace Project

variable {namespaces others : List Namespace} {groups : Entries ProjectMembers}
  {projects otherProjects : List Project} {project other : Project}

/-- The namespaces that are labelled with a project id. -/
def belonging (namespaces : List Namespace) (id : String) : List Namespace :=
  namespaces.filter fun ns => idOf? ns = some id

/-! ## Grouping the namespaces -/

/-- What holds of the projects when some namespaces were put to them: they are in the order of their
ids, and under each id are the members of the namespaces that carry it, if there are any. -/
structure Grouped (groups : Entries ProjectMembers) (namespaces : List Namespace) : Prop where
  ordered : groups.Ordered
  some : ∀ id members, groups.get? id = some members →
    belonging namespaces id ≠ [] ∧ members.Collected (belonging namespaces id)
  none : ∀ id, groups.get? id = none → belonging namespaces id = []

/-- Without namespaces there are no projects. -/
theorem Grouped.nil : Grouped [] [] := ⟨.nil, nofun, fun _ _ => rfl⟩

/-- One more namespace belongs to the project whose id it carries. -/
theorem belonging_concat_self {ns : Namespace} {id : String} (h : idOf? ns = some id) :
    belonging (namespaces ++ [ns]) id = belonging namespaces id ++ [ns] := by
  unfold belonging
  rw [List.filter_append, List.filter_cons_of_pos (by simpa using h), List.filter_nil]

/-- It belongs to no other project. -/
theorem belonging_concat_of_ne {ns : Namespace} {id : String} (h : idOf? ns ≠ some id) :
    belonging (namespaces ++ [ns]) id = belonging namespaces id := by
  unfold belonging
  rw [List.filter_append, List.filter_cons_of_neg (by simpa using h), List.filter_nil,
    List.append_nil]

/-- What stands under an id are the members that were put together so far. -/
theorem Grouped.collected (h : Grouped groups namespaces) (id : String) :
    ((groups.get? id).getD {}).Collected (belonging namespaces id) := by
  cases hget : groups.get? id with
  | none =>
      rw [h.none id hget]
      exact .nil
  | some members => exact (h.some id members hget).2

/-- One more namespace is put to its project, and is left out when it carries no id. -/
theorem Grouped.collect (h : Grouped groups namespaces) (ns : Namespace) :
    Grouped (collect groups ns) (namespaces ++ [ns]) := by
  have hordered := ordered_collect h.ordered ns
  unfold Project.collect at hordered ⊢
  cases hid : idOf? ns with
  | none =>
      have hsame (id : String) : belonging (namespaces ++ [ns]) id = belonging namespaces id :=
        belonging_concat_of_ne (by rw [hid]; exact nofun)
      refine ⟨h.ordered, fun id members hget => ?_, fun id hget => ?_⟩
      · rw [hsame]
        exact h.some id members hget
      · rw [hsame]
        exact h.none id hget
  | some own =>
      rw [hid] at hordered
      have hother {id : String} (hne : id ≠ own) :
          belonging (namespaces ++ [ns]) id = belonging namespaces id :=
        belonging_concat_of_ne (by rw [hid]; exact fun heq => hne (Option.some.inj heq).symm)
      refine ⟨hordered, fun id members hget => ?_, fun id hget => ?_⟩
      · by_cases hown : id = own
        · subst hown
          cases (Entries.get_set_self id _ groups).symm.trans hget
          rw [belonging_concat_self hid]
          exact ⟨List.append_ne_nil_of_right_ne_nil _ (List.cons_ne_nil _ _),
            (h.collected id).insert ns⟩
        · rw [Entries.get_set_of_ne hown] at hget
          rw [hother hown]
          exact h.some id members hget
      · by_cases hown : id = own
        · subst hown
          cases (Entries.get_set_self id _ groups).symm.trans hget
        · rw [Entries.get_set_of_ne hown] at hget
          rw [hother hown]
          exact h.none id hget

/-- So it is when all namespaces were put to their projects. -/
theorem grouped_foldl (namespaces : List Namespace) :
    Grouped (namespaces.foldl collect []) namespaces := by
  induction namespaces using List.reverseRecOn with
  | nil => exact .nil
  | append_singleton rest ns ih =>
      rw [List.foldl_append]
      exact ih.collect ns

/-! ## The partition -/

/-- A project is that of its id among some namespaces: it has the sorted names of the namespaces
that carry the id, and the earliest of their times. -/
structure Comprises (project : Project) (namespaces : List Namespace) : Prop where
  names : project.namespaces.Perm
    ((belonging namespaces project.id).filterMap (·.metadata.name))
  sorted : project.namespaces.Pairwise (· ≤ ·)
  created : Earliest project.created
    ((belonging namespaces project.id).filterMap (·.metadata.creationTimestamp))
  type : project.type =
    if "default" ∈ project.namespaces then .default
    else if "kube-system" ∈ project.namespaces then .system else .user

/-- Projects in the order of their ids, one for each id that a namespace carries, each with the
namespaces that carry its id. -/
structure Partition (namespaces : List Namespace) (projects : List Project) : Prop where
  ordered : projects.Pairwise fun first second => first.id < second.id
  ids : ∀ id, (∃ project ∈ projects, project.id = id) ↔ ∃ ns ∈ namespaces, idOf? ns = some id
  comprises : ∀ project ∈ projects, project.Comprises namespaces

/-- The project of an id has what its members have. -/
theorem comprises_of_members {members : ProjectMembers} {id : String}
    (h : members.Collected (belonging namespaces id)) :
    (ofMembers id members).Comprises namespaces where
  names := h.names ▸ List.mergeSort_perm members.namespaces _
  sorted := pairwise_mergeSort_key (fun name => name) members.namespaces
  created := h.created
  type := by
    simp [ofMembers, typeOf, List.mem_mergeSort]

/-- The projects of some namespaces are their partition. -/
theorem partition_of_namespaces (namespaces : List Namespace) :
    Partition namespaces (ofNamespaces namespaces) := by
  have hgrouped := grouped_foldl namespaces
  have hmem (project : Project) : project ∈ ofNamespaces namespaces ↔
      ∃ id members, (namespaces.foldl collect []).get? id = some members ∧
        ofMembers id members = project := by
    unfold ofNamespaces
    rw [List.mem_map]
    constructor
    · rintro ⟨⟨id, members⟩, hentry, hproject⟩
      exact ⟨id, members, Entries.get_of_mem hgrouped.ordered hentry, hproject⟩
    · rintro ⟨id, members, hget, hproject⟩
      exact ⟨(id, members), Entries.mem_of_get hget, hproject⟩
  refine ⟨List.pairwise_map.mpr hgrouped.ordered, fun id => ⟨?_, ?_⟩, fun project hproject => ?_⟩
  · rintro ⟨project, hproject, rfl⟩
    obtain ⟨own, members, hget, rfl⟩ := (hmem project).mp hproject
    obtain ⟨ns, hns⟩ := List.exists_mem_of_ne_nil _ (hgrouped.some own members hget).1
    obtain ⟨hin, hid⟩ := List.mem_filter.mp hns
    exact ⟨ns, hin, of_decide_eq_true hid⟩
  · rintro ⟨ns, hns, hid⟩
    cases hget : (namespaces.foldl collect []).get? id with
    | none =>
        have hnone := hgrouped.none id hget
        exact absurd hid (by simpa using List.filter_eq_nil_iff.mp hnone ns hns)
    | some members => exact ⟨_, (hmem _).mpr ⟨id, members, hget, rfl⟩, rfl⟩
  · obtain ⟨id, members, hget, rfl⟩ := (hmem project).mp hproject
    exact comprises_of_members (hgrouped.some id members hget).2

/-- Two projects of one id among the same namespaces are the same. -/
theorem Comprises.eq_of_perm (h : project.Comprises namespaces) (hother : other.Comprises others)
    (hperm : namespaces.Perm others) (hid : project.id = other.id) : project = other := by
  have hbelonging : (belonging namespaces project.id).Perm (belonging others other.id) := by
    rw [hid]
    exact hperm.filter _
  have hnames : project.namespaces = other.namespaces :=
    ((h.names.trans (hbelonging.filterMap _)).trans hother.names.symm).eq_of_pairwise
      (fun _ _ _ _ hab hba => String.le_antisymm hab hba) h.sorted hother.sorted
  have hcreated : project.created = other.created :=
    h.created.eq_of_perm hother.created (hbelonging.filterMap _)
  have htype : project.type = other.type := by
    rw [h.type, hother.type, hnames]
  cases project
  cases other
  simp_all

/-- The projects of a partition have different ids. -/
theorem Partition.nodup_ids (h : Partition namespaces projects) : (projects.map (·.id)).Nodup :=
  List.pairwise_map.mpr (h.ordered.imp fun hlt => String.ne_of_lt hlt)

/-- There is one partition of some namespaces, in whatever order they come. -/
theorem Partition.unique (h : Partition namespaces projects)
    (hother : Partition others otherProjects) (hperm : namespaces.Perm others) :
    projects = otherProjects := by
  have hsub {first second : List Namespace} {ps qs : List Project} (hps : Partition first ps)
      (hqs : Partition second qs) (hsame : first.Perm second) : ∀ p ∈ ps, p ∈ qs := by
    intro p hp
    obtain ⟨ns, hns, hid⟩ := (hps.ids p.id).mp ⟨p, hp, rfl⟩
    obtain ⟨q, hq, hqid⟩ := (hqs.ids p.id).mpr ⟨ns, hsame.mem_iff.mp hns, hid⟩
    rwa [(hps.comprises p hp).eq_of_perm (hqs.comprises q hq) hsame hqid.symm]
  have hprojects : projects.Perm otherProjects :=
    (List.perm_ext_iff_of_nodup h.nodup_ids.of_map hother.nodup_ids.of_map).mpr fun p =>
      ⟨hsub h hother hperm p, hsub hother h hperm.symm p⟩
  exact hprojects.eq_of_pairwise
    (fun _ _ _ _ hab hba => absurd hba (String.lt_asymm hab)) h.ordered hother.ordered

/-! ## Every namespace is in one project -/

/-- The namespaces of different ids are all that carry one of the ids. -/
theorem flatMap_belonging_perm (namespaces : List Namespace) {ids : List String} (h : ids.Nodup) :
    (ids.flatMap (belonging namespaces)).Perm
      (namespaces.filter fun ns => (idOf? ns).any (ids.contains ·)) := by
  induction ids with
  | nil => simp
  | cons id rest ih =>
      obtain ⟨hfresh, hrest⟩ := List.nodup_cons.mp h
      rw [List.flatMap_cons]
      refine ((ih hrest).append_left _).trans ?_
      have hsplit := List.filter_append_perm (fun ns => idOf? ns = some id)
        (namespaces.filter fun ns => (idOf? ns).any ((id :: rest).contains ·))
      refine List.Perm.trans (List.Perm.of_eq ?_) hsplit
      rw [List.filter_filter, List.filter_filter]
      unfold belonging
      congr 1
      · refine List.filter_congr fun ns _ => ?_
        cases idOf? ns with
        | none => rfl
        | some own => by_cases hown : own = id <;> simp [hown, hfresh]
      · refine List.filter_congr fun ns _ => ?_
        cases idOf? ns with
        | none => rfl
        | some own => by_cases hown : own = id <;> simp [hown, hfresh]

/-- The projects have the names of all namespaces that carry an id, each once. -/
theorem Partition.flatMap_namespaces_perm (h : Partition namespaces projects) :
    (projects.flatMap (·.namespaces)).Perm
      ((namespaces.filter fun ns => (idOf? ns).isSome).filterMap (·.metadata.name)) := by
  have hall : (namespaces.filter fun ns => (idOf? ns).any ((projects.map (·.id)).contains ·)) =
      namespaces.filter fun ns => (idOf? ns).isSome := by
    refine List.filter_congr fun ns hns => ?_
    cases hid : idOf? ns with
    | none => rfl
    | some id =>
        obtain ⟨project, hproject, rfl⟩ := (h.ids id).mpr ⟨ns, hns, hid⟩
        simpa using ⟨project, hproject, rfl⟩
  have hnames : (projects.flatMap (·.namespaces)).Perm
      (projects.flatMap fun p => (belonging namespaces p.id).filterMap (·.metadata.name)) :=
    List.Perm.flatMap_left _ fun p hp => (h.comprises p hp).names
  rw [← hall]
  refine hnames.trans (List.Perm.trans (List.Perm.of_eq ?_)
    ((flatMap_belonging_perm namespaces h.nodup_ids).filterMap _))
  rw [List.flatMap_map, List.filterMap_flatMap]

/-- A partition is made by the namespaces that carry an id, and by them alone. -/
theorem Partition.of_labelled
    (h : Partition (namespaces.filter fun ns => (idOf? ns).isSome) projects) :
    Partition namespaces projects := by
  have hbelonging (id : String) :
      belonging (namespaces.filter fun ns => (idOf? ns).isSome) id = belonging namespaces id := by
    unfold belonging
    rw [List.filter_filter]
    refine List.filter_congr fun ns _ => ?_
    cases idOf? ns <;> simp
  refine ⟨h.ordered, fun id => (h.ids id).trans ⟨?_, ?_⟩, fun project hproject => ?_⟩
  · rintro ⟨ns, hns, hid⟩
    exact ⟨ns, (List.mem_filter.mp hns).1, hid⟩
  · rintro ⟨ns, hns, hid⟩
    exact ⟨ns, List.mem_filter.mpr ⟨hns, by rw [hid]; rfl⟩, hid⟩
  · obtain ⟨hnames, hsorted, hcreated, htype⟩ := h.comprises project hproject
    rw [hbelonging] at hnames hcreated
    exact ⟨hnames, hsorted, hcreated, htype⟩

/-! ## The projects of a cluster -/

variable {cluster : MemoryCluster} {ctx : RequestContext} {w final : World}

/-- The namespaces that belong to a project are those that carry an id. -/
theorem select_members_eq (cluster : MemoryCluster) :
    cluster.selectNamespaces members = cluster.namespaces.filter fun ns => (idOf? ns).isSome := by
  refine List.filter_congr fun ns _ => ?_
  unfold Selector.holdsOpt Selector.holds members idOf?
  rw [List.all_cons, List.all_nil, Bool.and_true]
  cases ns.metadata.labels <;> rfl

/-- A cluster is managed when it serves the kind of the projects that manage it. -/
theorem managed_iff (cluster : MemoryCluster) :
    cluster.managed = true ↔
      ∃ r ∈ cluster.resources, r.group = "management.cattle.io" ∧ r.kind = "Project" := by
  unfold MemoryCluster.managed Mapper.byKind?
  rw [List.find?_isSome]
  simp only [Bool.and_eq_true, decide_eq_true_eq]
  rfl

/-- The projects of a managed cluster are there when both questions are answered. -/
theorem list_eq_ok_iff_of_managed (hmanaged : cluster.managed = true) :
    (∃ projects final, list (.memory cluster) ctx w = (.ok projects, final)) ↔
      ctx.abort? (w.now + 2 * cluster.latency) = none := by
  have htime : w.now + 2 * cluster.latency = w.now + cluster.latency + cluster.latency := by omega
  rw [htime]
  unfold list
  constructor
  · rintro ⟨projects, final, hlist⟩
    obtain ⟨managed, middle, hfirst, hload⟩ := Action.bind_eq_ok_iff.mp hlist
    obtain ⟨-, rfl, rfl⟩ := is_managed_eq_ok_iff.mp hfirst
    rw [hmanaged] at hload
    exact (load_eq_ok_iff.mp hload).1
  · intro hlive
    have hsoon := RequestContext.abort_eq_none_of_le (Nat.le_add_right ..) hlive
    have hfirst := is_managed_eq_ok_iff.mpr ⟨hsoon, hmanaged.symm, rfl⟩
    exact ⟨_, _, Action.bind_eq_ok_iff.mpr
      ⟨true, _, hfirst, load_eq_ok_iff.mpr ⟨hlive, rfl, rfl⟩⟩⟩

/-- Clusters that differ in the order of their namespaces have the same projects. -/
theorem load_of_perm (cluster : MemoryCluster) (h : others.Perm cluster.namespaces) :
    load (.memory { cluster with namespaces := others }) ctx = load (.memory cluster) ctx := by
  have hselected : (MemoryCluster.selectNamespaces { cluster with namespaces := others }
      members).Perm (cluster.selectNamespaces members) := h.filter _
  have hprojects := (partition_of_namespaces _).unique (partition_of_namespaces _) hselected
  funext w
  unfold load Cluster.namespaces
  rw [selector_eq, Action.of_result_ok_bind, Action.of_result_ok_bind,
    MemoryCluster.answer_ok_map, MemoryCluster.answer_ok_map, hprojects]
  rfl

/-- A managed cluster that is asked for long enough lists its projects: they are the partition of
its namespaces, which puts every namespace with an id into one project, and the order of the
namespaces changes nothing. -/
theorem projects_partition_namespaces (cluster : MemoryCluster)
    (hmanaged : ∃ r ∈ cluster.resources, r.group = "management.cattle.io" ∧ r.kind = "Project")
    (ctx : RequestContext) (w : World) :
    ((∃ projects final, list (.memory cluster) ctx w = (.ok projects, final)) ↔
        ctx.abort? (w.now + 2 * cluster.latency) = none) ∧
      (∀ projects final, list (.memory cluster) ctx w = (.ok projects, final) →
        Partition cluster.namespaces projects ∧
          (projects.flatMap (·.namespaces)).Perm
            ((cluster.namespaces.filter fun ns => (idOf? ns).isSome).filterMap
              (·.metadata.name))) ∧
      ∀ others, others.Perm cluster.namespaces →
        list (.memory { cluster with namespaces := others }) ctx w =
          list (.memory cluster) ctx w := by
  have htrue := (managed_iff cluster).mpr hmanaged
  refine ⟨list_eq_ok_iff_of_managed htrue, fun projects final hlist => ?_, fun others hperm => ?_⟩
  · have hprojects := (of_list_eq_ok hlist).1
    unfold MemoryCluster.projects at hprojects
    rw [if_pos htrue, select_members_eq] at hprojects
    subst hprojects
    have hpartition : Partition cluster.namespaces _ := (partition_of_namespaces _).of_labelled
    exact ⟨hpartition, hpartition.flatMap_namespaces_perm⟩
  · unfold list
    rw [load_of_perm cluster hperm]
    rfl

/-- A managed cluster with namespaces of two projects, one without a name, and one of none. -/
def sharedCluster : MemoryCluster where
  resources := [managedProjects]
  namespaces :=
    let labelled (name : Option String) (id : String) (created : Option Timestamp) : Namespace :=
      ⟨{ name := name, labels := some [(idLabel, id)], creationTimestamp := created }, none, none⟩
    [labelled (some "web") "p-b" (some ⟨20000, 7, 0⟩), labelled (some "default") "p-a" none,
      labelled none "p-b" (some ⟨19000, 5, 0⟩), ⟨{ name := some "free" }, none, none⟩,
      labelled (some "kube-system") "p-b" none]

/-- Its projects are the same when its namespaces come in the opposite order. -/
theorem shared_cluster_is_partitioned :
    (∃ r ∈ sharedCluster.resources, r.group = "management.cattle.io" ∧ r.kind = "Project") ∧
      Partition sharedCluster.namespaces
        [⟨"p-a", .default, ["default"], none⟩,
          ⟨"p-b", .system, ["kube-system", "web"], some ⟨19000, 5, 0⟩⟩] ∧
      list (.memory { sharedCluster with namespaces := sharedCluster.namespaces.reverse }) {} {} =
        list (.memory sharedCluster) {} {} := by
  have hserved : ∃ r ∈ sharedCluster.resources,
      r.group = "management.cattle.io" ∧ r.kind = "Project" :=
    ⟨managedProjects, List.mem_singleton_self _, rfl, rfl⟩
  obtain ⟨hdefined, hpartition, hperm⟩ := projects_partition_namespaces sharedCluster hserved {} {}
  obtain ⟨projects, final, hlist⟩ := hdefined.mpr rfl
  have hgroups : sharedCluster.projects =
      [ofMembers "p-a" ⟨["default"], none⟩,
        ofMembers "p-b" ⟨["web", "kube-system"], some ⟨19000, 5, 0⟩⟩] := by
    with_unfolding_all rfl
  have hnames : ["web", "kube-system"].mergeSort (· ≤ ·) = ["kube-system", "web"] := by
    simp [List.mergeSort]
  have hprojects : projects = _ := (of_list_eq_ok hlist).1.trans hgroups
  simp only [ofMembers, List.mergeSort_singleton, hnames] at hprojects
  exact ⟨hserved, hprojects ▸ (hpartition _ _ hlist).1, hperm _ (List.reverse_perm _)⟩

end Project

end VirtualApi

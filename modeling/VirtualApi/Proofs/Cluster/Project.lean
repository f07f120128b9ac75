import VirtualApi.Cluster.Project
import VirtualApi.Proofs.Cluster.Memory
import VirtualApi.Proofs.Object.Meta

/-!
# The projects of a cluster held in memory

The projects of a cluster held in memory are a list that does not change, under different ids
(`Project.nodup_ids`). A list of the projects comes when the request runs long enough
(`Project.of_list_eq_ok`), and a request that runs as long gets each of them by its id
(`Project.get_of_live`).
-/

namespace VirtualApi

namespace Project

/-- Putting a namespace to its project keeps the projects in the order of their ids. -/
theorem ordered_collect {groups : Entries ProjectMembers} (h : groups.Ordered) (ns : Namespace) :
    (collect groups ns).Ordered := by
  unfold collect
  split
  · exact h
  · exact Entries.ordered_set h _ _

/-- The projects of namespaces have different ids. -/
theorem nodup_ids (namespaces : List Namespace) : ((ofNamespaces namespaces).map (·.id)).Nodup := by
  have hordered (groups : Entries ProjectMembers) (h : groups.Ordered) :
      (namespaces.foldl collect groups).Ordered := by
    induction namespaces generalizing groups with
    | nil => exact h
    | cons ns rest ih => exact ih _ (ordered_collect h ns)
  have hids : (ofNamespaces namespaces).map (·.id) = (namespaces.foldl collect []).map (·.1) := by
    unfold ofNamespaces
    rw [List.map_map]
    rfl
  rw [hids]
  exact List.pairwise_map.mpr ((hordered [] .nil).imp fun h => String.ne_of_lt h)

/-- The object of a project shows the id of the project as its name. -/
theorem object_name_eq (project : Project) : objectName project.toJson = project.id := by
  let metadata : ObjectMeta :=
    { name := some project.id, labels := some [(idLabel, project.id)],
      creationTimestamp := project.created }
  have hproper : metadata.Proper := ObjectMeta.proper_of_other rfl
  have hmetadata : project.toJson.get? "metadata" = some metadata.toJson :=
    ObjectMeta.get_metadata ..
  exact ObjectMeta.object_name_eq hproper hmetadata

/-- The selector of the namespaces that belong to a project. -/
def members : Selector := ⟨[⟨idLabel, .exists, []⟩]⟩

/-- The label that says which project a namespace belongs to can be selected by. -/
theorem selector_eq : selector = .ok members := by rfl

end Project

namespace MemoryCluster

variable (cluster : MemoryCluster)

/-- The cluster is managed in projects. -/
def managed : Bool :=
  (Mapper.byKind? cluster.resources managedProjects.group managedProjects.kind).isSome

/-- The projects of a cluster. -/
def projects : List Project :=
  if cluster.managed then Project.ofNamespaces (cluster.selectNamespaces Project.members) else []

/-- The time that it takes to ask for the projects. -/
def projectTime : Nat :=
  if cluster.managed then cluster.latency + cluster.latency else cluster.latency

/-- The projects of a cluster have different ids. -/
theorem nodup_project_ids : (cluster.projects.map (·.id)).Nodup := by
  unfold projects
  split
  · exact Project.nodup_ids _
  · exact List.nodup_nil

end MemoryCluster

namespace Project

variable {cluster : MemoryCluster} {ctx : RequestContext} {w final : World}

/-- Whether a cluster is managed is found out by one question. -/
theorem is_managed_eq_ok_iff {managed : Bool} :
    isManaged (.memory cluster) ctx w = (.ok managed, final) ↔
      ctx.abort? (w.now + cluster.latency) = none ∧ managed = cluster.managed ∧
        final = cluster.answered (.resolveKind managedProjects.group managedProjects.kind) w := by
  unfold isManaged Cluster.resolveKind
  rw [Action.bind_eq_ok_iff]
  constructor
  · rintro ⟨found, middle, hanswer, hmanaged⟩
    obtain ⟨hlive, hfound, rfl⟩ := MemoryCluster.answer_eq_ok_iff.mp hanswer
    cases hfound
    cases hmanaged
    exact ⟨hlive, rfl, rfl⟩
  · rintro ⟨hlive, rfl, rfl⟩
    exact ⟨_, _, MemoryCluster.answer_eq_ok_iff.mpr ⟨hlive, rfl, rfl⟩, rfl⟩

/-- The projects of a managed cluster are found by one more. -/
theorem load_eq_ok_iff {projects : List Project} :
    load (.memory cluster) ctx w = (.ok projects, final) ↔
      ctx.abort? (w.now + cluster.latency) = none ∧
        projects = ofNamespaces (cluster.selectNamespaces members) ∧
        final = cluster.answered (.namespaces members) w := by
  unfold load Cluster.namespaces
  rw [selector_eq, Action.of_result_ok_bind, Action.bind_eq_ok_iff]
  constructor
  · rintro ⟨found, middle, hanswer, hprojects⟩
    obtain ⟨hlive, hfound, rfl⟩ := MemoryCluster.answer_eq_ok_iff.mp hanswer
    cases hfound
    cases hprojects
    exact ⟨hlive, rfl, rfl⟩
  · rintro ⟨hlive, rfl, rfl⟩
    exact ⟨_, _, MemoryCluster.answer_eq_ok_iff.mpr ⟨hlive, rfl, rfl⟩, rfl⟩

/-- A list of projects is that of the cluster, and the request runs until it is there. -/
theorem of_list_eq_ok {projects : List Project}
    (h : list (.memory cluster) ctx w = (.ok projects, final)) :
    projects = cluster.projects ∧ final.now = w.now + cluster.projectTime ∧
      ctx.abort? final.now = none := by
  unfold list at h
  obtain ⟨managed, middle, hmanaged, hload⟩ := Action.bind_eq_ok_iff.mp h
  obtain ⟨hlive, rfl, rfl⟩ := is_managed_eq_ok_iff.mp hmanaged
  unfold MemoryCluster.projects MemoryCluster.projectTime
  cases hcase : cluster.managed with
  | true =>
      rw [hcase] at hload
      obtain ⟨hlater, rfl, rfl⟩ := load_eq_ok_iff.mp hload
      exact ⟨rfl, Nat.add_assoc .., hlater⟩
  | false =>
      rw [hcase] at hload
      cases hload
      exact ⟨rfl, rfl, hlive⟩

/-- A request that runs as long gets the project of an id, or the error that there is none. -/
theorem get_of_live (hlive : ctx.abort? (w.now + cluster.projectTime) = none) (id : String) :
    (get (.memory cluster) ctx id w).1 =
      match cluster.projects.find? fun project => project.id = id with
      | some project => .ok project
      | none => .error (.notFound "meta.kubeui.dev" "projects" id) := by
  unfold MemoryCluster.projectTime at hlive
  have hsoon : ctx.abort? (w.now + cluster.latency) = none := by
    refine RequestContext.abort_eq_none_of_le ?_ hlive
    split <;> omega
  have hmanaged := is_managed_eq_ok_iff.mpr ⟨hsoon, rfl, rfl⟩
  unfold get
  simp only [Action.bind_apply, hmanaged]
  unfold MemoryCluster.projects
  cases hcase : cluster.managed with
  | false => rfl
  | true =>
      rw [hcase, if_pos rfl, ← Nat.add_assoc] at hlive
      have hload : load (.memory cluster) ctx
          (cluster.answered (.resolveKind managedProjects.group managedProjects.kind) w) = _ :=
        load_eq_ok_iff.mpr ⟨hlive, rfl, rfl⟩
      simp only [if_true, Action.bind_apply, hload]
      cases (ofNamespaces (cluster.selectNamespaces members)).find? fun project =>
        project.id = id <;> rfl

end Project

end VirtualApi

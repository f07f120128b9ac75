import VirtualApi.Proofs.Catalog.Rendering
import VirtualApi.Proofs.Cluster.Project
import VirtualApi.Proofs.Kind.Admission

/-!
# What lists say

The objects of a list are given their kind after they were selected, which leaves their names and
their labels as they are. So a list with a label selector holds those objects of the whole list that
the selector selects (`Server.list_selects_by_own_labels`), and a name is got as the object that
shows it in the whole list (`Server.get_agrees_with_list`), although the one is filtered and the
other is found before anything is written.
-/

namespace VirtualApi

namespace GroupVersionKind

/-- Setting a field of the type does not change the metadata. -/
theorem at_metadata_fill {field : String} (hfield : "metadata" ≠ field) (value : String)
    (object : Json) (path : List String) :
    (fill field value object).at? ("metadata" :: path) = object.at? ("metadata" :: path) := by
  unfold fill
  split
  · cases object with
    | obj fields =>
        show (Entries.get? "metadata" (Entries.set field _ fields)).bind _ = _
        rw [Entries.get_set_of_ne hfield]
        rfl
    | _ => rfl
  · rfl

/-- An object that is given its kind keeps its metadata. -/
theorem at_metadata_stamp (gvk : GroupVersionKind) (object : Json) (path : List String) :
    (gvk.stamp object).at? ("metadata" :: path) = object.at? ("metadata" :: path) := by
  unfold stamp
  rw [at_metadata_fill (by decide), at_metadata_fill (by decide)]

/-- An object that is given its kind keeps its name. -/
@[simp] theorem object_name_stamp (gvk : GroupVersionKind) (object : Json) :
    objectName (gvk.stamp object) = objectName object := by
  unfold objectName Json.textAt
  rw [at_metadata_stamp]

/-- An object that is given its kind keeps its labels. -/
@[simp] theorem labels_stamp (gvk : GroupVersionKind) (object : Json) :
    (gvk.stamp object).labels = object.labels := by
  unfold Json.labels
  rw [at_metadata_stamp]

end GroupVersionKind

/-- Options that ask for everything, from the start and without a limit. -/
structure ListOptions.Whole (options : ListOptions) : Prop where
  unfiltered : options.selector = .ok .everything
  start : options.start = .ok 0
  unlimited : options.pageSize = 0

namespace Server

variable {server : Server} {resource : String} {kind : Kind} {options : ListOptions}
  {ctx : RequestContext} {w final : World} {list : ObjectList}

/-- A list that is let through is one of a kind that is listed, with accepted options. -/
theorem accept_list_eq_ok_iff (hkind : server.kind resource = .ok kind) {found : Kind}
    {selector : Selector} :
    server.acceptList resource options = .ok (found, selector) ↔
      found = kind ∧ (options.watch = false ∧ kind.supports .list = true ∧
        options.hasFieldSelector = false) ∧ options.selector = .ok selector := by
  rw [accept_list_of_kind hkind]
  cases options.watch <;> cases kind.supports .list <;> cases options.hasFieldSelector <;>
    cases options.selector <;> simp [Except.map, eq_comm]

/-- A list of a kind is made from what its backend selects. -/
theorem list_eq_ok_iff (hkind : server.kind resource = .ok kind) :
    server.list ctx resource options w = (.ok list, final) ↔
      (options.watch = false ∧ kind.supports .list = true ∧ options.hasFieldSelector = false) ∧
        ∃ selector part, options.selector = .ok selector ∧
          select kind ctx options selector w = (.ok part, final) ∧ list = listOf kind part := by
  unfold Server.list
  rw [Action.bind_eq_ok_iff]
  constructor
  · rintro ⟨⟨found, selector⟩, middle, haccept, hselect⟩
    rw [Action.of_result_apply, Prod.mk.injEq] at haccept
    obtain ⟨haccept, rfl⟩ := haccept
    obtain ⟨rfl, hserved, hselector⟩ := (accept_list_eq_ok_iff hkind).mp haccept
    obtain ⟨part, _, hpart, hlist⟩ := Action.bind_eq_ok_iff.mp hselect
    cases hlist
    exact ⟨hserved, selector, part, hselector, hpart, rfl⟩
  · rintro ⟨hserved, selector, part, hselector, hpart, rfl⟩
    have haccept := (accept_list_eq_ok_iff hkind).mpr ⟨rfl, hserved, hselector⟩
    refine ⟨(kind, selector), w, by rw [haccept]; rfl, ?_⟩
    exact Action.bind_eq_ok_iff.mpr ⟨part, final, hpart, rfl⟩

/-! ## Label selectors -/

/-- What a catalog has for a list is already decided. -/
theorem select_eq_ok_iff_of_catalog {source : CatalogSource} {selector : Selector}
    {part : ListPart Json} (hbackend : kind.backend = .catalog source) :
    select kind ctx options selector w = (.ok part, final) ↔
      source.list options selector = .ok part ∧ w = final := by
  have hselect : select kind ctx options selector w = (source.list options selector, w) := by
    unfold select
    rw [hbackend]
    rfl
  rw [hselect, Prod.mk.injEq]

/-- What is looked up for a list are the selected objects of all that are found. -/
theorem select_eq_ok_iff_of_lookup {source : LookupSource} {selector : Selector}
    {part : ListPart Json} (hbackend : kind.backend = .lookup source) :
    select kind ctx options selector w = (.ok part, final) ↔
      ∃ items, source.list ctx w = (.ok items, final) ∧
        part = { items := items.filter fun item => selector.holds item.labels } := by
  unfold select
  rw [hbackend]
  constructor
  · intro h
    obtain ⟨items, _, hitems, hpart⟩ := Action.bind_eq_ok_iff.mp h
    cases hpart
    exact ⟨items, hitems, rfl⟩
  · rintro ⟨items, hitems, rfl⟩
    exact Action.bind_eq_ok_iff.mpr ⟨items, final, hitems, rfl⟩

/-- All objects satisfy the selector of everything. -/
theorem filter_everything_holds (items : List Json) :
    items.filter (fun item => Selector.everything.holds item.labels) = items :=
  List.filter_eq_self.mpr fun _ _ => rfl

/-- Label selectors mean the same whatever is behind a kind: the descriptors, outlines or layouts of
a catalog, or what is looked up in the cluster. Where the whole list of the kind comes, a list with
a selector that can be read comes as well, and holds those objects of the whole list, in their
order, whose own labels satisfy the selector. -/
theorem list_selects_by_own_labels (hkind : server.kind resource = .ok kind)
    (hlisted : kind.Catalogued ∨ ∃ source, kind.backend = .lookup source)
    (hwhole : options.Whole) (hall : server.list ctx resource options w = (.ok list, final))
    {text : String} {selector : Selector} (htext : Selector.parse text = .ok selector) :
    server.list ctx resource (options.withLabels text) w =
      (.ok { list with items := list.items.filter fun item => selector.holds item.labels },
        final) := by
  obtain ⟨hserved, everything, part, heverything, hpart, rfl⟩ := (list_eq_ok_iff hkind).mp hall
  cases hwhole.unfiltered.symm.trans heverything
  have hselector : (options.withLabels text).selector = .ok selector := by
    simp only [ListOptions.selector, ListOptions.withLabels, htext]
  have hselect : select kind ctx (options.withLabels text) selector w =
      (.ok { part with items := part.items.filter fun item => selector.holds item.labels },
        final) := by
    rcases hlisted with hcatalogued | ⟨source, hbackend⟩
    · obtain ⟨source, hbackend, hcoherent⟩ := hcatalogued.coherent
      obtain ⟨hpage, rfl⟩ := (select_eq_ok_iff_of_catalog hbackend).mp hpart
      have hselected := hcoherent.selects options (options.withLabels text) part selector
        hwhole.start hwhole.unlimited hwhole.start hwhole.unlimited hpage
      exact (select_eq_ok_iff_of_catalog hbackend).mpr ⟨hselected, rfl⟩
    · obtain ⟨items, hitems, rfl⟩ := (select_eq_ok_iff_of_lookup hbackend).mp hpart
      rw [filter_everything_holds]
      exact (select_eq_ok_iff_of_lookup hbackend).mpr ⟨items, hitems, rfl⟩
  refine (list_eq_ok_iff hkind).mpr ⟨hserved, selector, _, hselector, hselect, ?_⟩
  simp only [listOf, List.filter_map, Function.comp_def, GroupVersionKind.labels_stamp]

/-- A server of what describes resources. -/
def browser : Server where
  registry := {
    kinds := [Kind.resourceDescriptor, Kind.resourceOutline]
    names := [("resourcedescriptors", Kind.resourceDescriptor),
      ("resourceoutlines", Kind.resourceOutline)] }

/-- Of the outlines that come with the library, those of pods are selected by their kind. -/
theorem outlines_of_pods :
    ∃ all, browser.list {} "resourceoutlines" {} {} = (.ok all, {}) ∧ all.items.length = 2 ∧
      ∃ selected, browser.list {} "resourceoutlines"
        (ListOptions.withLabels {} "k8s.io/kind=Pod") {} = (.ok selected, {}) ∧
        selected.names = ["core-v1-pods"] := by
  have hkind : browser.kind "resourceoutlines" = .ok Kind.resourceOutline := rfl
  refine ⟨_, rfl, rfl, _, list_selects_by_own_labels hkind ?_ ⟨rfl, rfl, rfl⟩ rfl (by rfl), ?_⟩
  · exact .inl (.outlines (.inl rfl) rfl)
  · decide +kernel

end Server

/-! ## Names -/

namespace Kind

/-- A kind whose objects are listed, and got by their names: what describes resources, from the
catalogs that a server can have, or the projects of a cluster held in memory, served with any
verbs. -/
inductive Browsable : Kind → Prop where
  | catalogued {kind : Kind} (h : kind.Catalogued) : Browsable kind
  | projects (cluster : MemoryCluster) (verbs : List Verb) :
      Browsable { project (.memory cluster) with verbs := verbs }

end Kind

/-- What comes of a name among items: the one item that shows the name, and the error that it is
missing where there is not exactly one. -/
structure Answers (items : List Json) (name : String) (missing : ApiError)
    (result : ApiResult Json) : Prop where
  found : ∀ object,
    result = .ok object ↔ items.filter (fun item => objectName item = name) = [object]
  missed : (∀ object, items.filter (fun item => objectName item = name) ≠ [object]) →
    result = .error missing

/-- What is found or missed, where at most one item shows the name. -/
theorem Answers.of_found {items : List Json} {name : String} {found : Option Json}
    (h : items.filter (fun item => objectName item = name) = found.toList) (missing : ApiError) :
    Answers items name missing (found.elim (.error missing) .ok) := by
  cases found with
  | none =>
      refine ⟨fun object => ?_, fun _ => rfl⟩
      rw [h]
      constructor <;> intro hfound <;> cases hfound
  | some item =>
      refine ⟨fun object => ?_, fun hmissed => absurd h (hmissed item)⟩
      rw [h]
      simp

namespace Server

variable {server : Server} {resource : String} {kind : Kind} {options : ListOptions}
  {ctx other : RequestContext} {w final v : World} {list : ObjectList}

/-- What is got of a kind is what its backend finds, with its kind. -/
theorem get_of_kind (hkind : server.kind resource = .ok kind) (hserved : kind.supports .get = true)
    (name : String) :
    (server.get ctx resource name w).1 = (find kind ctx name w).1.map kind.gvk.stamp := by
  have hfor : server.kindFor resource .get = .ok kind := by
    rw [kindFor, hkind]
    show (if kind.supports .get then _ else _) = _
    rw [hserved]
    rfl
  unfold Server.get
  rw [hfor, Action.of_result_ok_bind, Action.bind_apply]
  rcases find kind ctx name w with ⟨_ | object, after⟩ <;> rfl

/-- A name is found among the objects of a catalog. -/
theorem find_of_catalog {source : CatalogSource} (hbackend : kind.backend = .catalog source)
    {name : String} {found : Option Json} (hget : source.get name = .ok found) :
    (find kind ctx name w).1 =
      found.elim (.error (.notFound kind.gvk.group kind.plural name)) .ok := by
  unfold find
  rw [hbackend]
  simp only [hget]
  cases found <;> rfl

/-- A name is found among the projects of a cluster, if there is time to ask for them. -/
theorem find_of_projects {cluster : MemoryCluster} {verbs : List Verb}
    (hlive : ctx.abort? (w.now + cluster.projectTime) = none) (name : String) :
    (find { Kind.project (.memory cluster) with verbs := verbs } ctx name w).1 =
      ((cluster.projects.find? fun project => project.id = name).map Project.toJson).elim
        (.error (.notFound "meta.kubeui.dev" "projects" name)) .ok := by
  have hget := Project.get_of_live hlive name
  show ((Project.get (.memory cluster) ctx name >>= fun project => pure project.toJson) w).1 = _
  rw [Action.bind_apply]
  generalize Project.get (.memory cluster) ctx name w = answer at hget ⊢
  obtain ⟨result, after⟩ := answer
  cases hfind : cluster.projects.find? fun project => project.id = name with
  | none =>
      rw [hfind] at hget
      cases hget
      rfl
  | some project =>
      rw [hfind] at hget
      cases hget
      rfl

/-- The objects that a kind has for a list are those that it finds by their names. -/
theorem find_among_selected {part : ListPart Json} (hkind : kind.Browsable)
    (hwhole : options.Whole)
    (hpart : select kind ctx options .everything w = (.ok part, final))
    (htime : (other = ctx ∧ v = w) ∨ other.abort? (v.now + (final.now - w.now)) = none)
    (name : String) :
    ∃ found : Option Json,
      part.items.filter (fun item => objectName item = name) = found.toList ∧
        (find kind other name v).1 =
          found.elim (.error (.notFound kind.gvk.group kind.plural name)) .ok := by
  cases hkind with
  | catalogued h =>
      obtain ⟨source, hbackend, hcoherent⟩ := h.coherent
      obtain ⟨hpage, -⟩ := (select_eq_ok_iff_of_catalog hbackend).mp hpart
      obtain ⟨found, hget, hfound⟩ :=
        hcoherent.gets options part name hwhole.start hwhole.unlimited hpage
      exact ⟨found, hfound, find_of_catalog hbackend hget⟩
  | projects cluster verbs =>
      obtain ⟨items, hitems, rfl⟩ := (select_eq_ok_iff_of_lookup rfl).mp hpart
      obtain ⟨projects, _, hprojects, hitems⟩ := Action.bind_eq_ok_iff.mp hitems
      cases hitems
      obtain ⟨rfl, hnow, hlisted⟩ := Project.of_list_eq_ok hprojects
      have hlive : other.abort? (v.now + cluster.projectTime) = none := by
        rcases htime with ⟨rfl, rfl⟩ | hlive
        · rwa [← hnow]
        · rwa [hnow, Nat.add_sub_cancel_left] at hlive
      refine ⟨_, ?_, find_of_projects hlive name⟩
      rw [filter_everything_holds, List.filter_map]
      simp only [Function.comp_def, Project.object_name_eq]
      rw [filter_eq_find cluster.nodup_project_ids]
      cases cluster.projects.find? fun project => project.id = name <;> rfl

/-- Get and list agree. Where the whole list of a kind comes, a name is got as the one item of the
list that shows the name, and is not found where there is none; as long as it is asked for in the
same request and world, or in a request that still runs after the time that the list took. -/
theorem get_agrees_with_list (hkind : server.kind resource = .ok kind)
    (hbrowsable : kind.Browsable) (hserved : kind.supports .get = true) (hwhole : options.Whole)
    (hlist : server.list ctx resource options w = (.ok list, final))
    (htime : (other = ctx ∧ v = w) ∨ other.abort? (v.now + (final.now - w.now)) = none)
    (name : String) :
    Answers list.items name (.notFound kind.gvk.group kind.plural name)
      (server.get other resource name v).1 := by
  obtain ⟨-, everything, part, heverything, hpart, rfl⟩ := (list_eq_ok_iff hkind).mp hlist
  cases hwhole.unfiltered.symm.trans heverything
  obtain ⟨found, hfound, hfind⟩ := find_among_selected hbrowsable hwhole hpart htime name
  have hstamped : (listOf kind part).items.filter (fun item => objectName item = name) =
      (found.map kind.gvk.stamp).toList := by
    simp only [listOf, List.filter_map, Function.comp_def, GroupVersionKind.object_name_stamp]
    rw [hfound]
    cases found <;> rfl
  have hresult : (server.get other resource name v).1 = (found.map kind.gvk.stamp).elim
      (.error (.notFound kind.gvk.group kind.plural name)) .ok := by
    rw [get_of_kind hkind hserved, hfind]
    cases found <;> rfl
  rw [hresult]
  exact .of_found hstamped _

/-- Of the descriptors that come with the library, the one of pods is got as it is listed, and
nothing is called just `pods`. -/
theorem pods_got_as_listed :
    ∃ list pods, browser.list {} "resourcedescriptors" {} {} = (.ok list, {}) ∧
      list.items[4]? = some pods ∧
      (browser.get {} "resourcedescriptors" "core-v1-pods" {}).1 = .ok pods ∧
      (browser.get {} "resourcedescriptors" "pods" {}).1 =
        .error (.notFound "meta.kubeui.dev" "resourcedescriptors" "pods") := by
  have hkind : browser.kind "resourcedescriptors" = .ok Kind.resourceDescriptor := rfl
  have hbrowsable : Kind.resourceDescriptor.Browsable := .catalogued (.descriptors (.inl rfl) rfl)
  have hanswers {list : ObjectList} (name : String)
      (hlist : browser.list {} "resourcedescriptors" {} {} = (.ok list, {})) :=
    get_agrees_with_list hkind hbrowsable rfl ⟨rfl, rfl, rfl⟩ hlist (.inl ⟨rfl, rfl⟩) name
  refine ⟨_, _, rfl, rfl, ((hanswers "core-v1-pods" rfl).found _).mpr ?_,
    (hanswers "pods" rfl).missed fun object hfound => ?_⟩
  · decide +kernel
  · have hnonempty : _ = false := congrArg List.isEmpty hfound
    revert hnonempty
    decide +kernel

end Server

end VirtualApi

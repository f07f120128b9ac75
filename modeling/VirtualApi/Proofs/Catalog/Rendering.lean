import VirtualApi.Kind.Standard
import VirtualApi.Proofs.Catalog.Loading
import VirtualApi.Proofs.Catalog.Paging
import VirtualApi.Proofs.Object.Meta

/-!
# What the objects of a catalog show

The entries of a catalog are served as objects. Entries are filtered by their labels and found by
their names before they are written, while a client sees the labels and the name of what is written.
Where the two are the same (`Faithful`), the objects may as well be filtered and found by what they
show (`Coherent`). `Catalogued.coherent` says so for the descriptors, the outlines and the layouts
of all catalogs that a server can have.
-/

namespace VirtualApi

/-- Of items under different keys, those under one key are the first that is found. -/
theorem filter_eq_find {α κ : Type} [DecidableEq κ] {key : α → κ} {items : List α}
    (h : (items.map key).Nodup) (k : κ) :
    items.filter (fun a => key a = k) = (items.find? fun a => key a = k).toList := by
  induction items with
  | nil => rfl
  | cons item rest ih =>
      obtain ⟨hnew, hrest⟩ := List.nodup_cons.mp h
      by_cases hkey : key item = k
      · have hnone : rest.filter (fun a => key a = k) = [] := by
          refine List.filter_eq_nil_iff.mpr fun other hother heq => hnew ?_
          rw [hkey, ← of_decide_eq_true heq]
          exact List.mem_map_of_mem hother
        simp [hkey, hnone]
      · simp [hkey, ih hrest]

namespace Catalog

variable {α : Type} [CatalogEntry α]

/-- A catalog that a server can have: the one that comes with the library, or one that is loaded
from documents. -/
def Available (catalog standard : Catalog α) : Prop :=
  catalog = standard ∨ ∃ documents, ofDocuments documents = .ok catalog

/-- The entries have different names. -/
def Named (catalog : Catalog α) : Prop := (catalog.entries.map CatalogEntry.name).Nodup

/-- A loaded catalog holds what was read, under different names. -/
theorem named_of_documents {catalog : Catalog α} {documents : List CatalogDocument}
    (h : ofDocuments documents = .ok catalog) :
    catalog.Named ∧ ∀ entry ∈ catalog.entries, ∃ text, CatalogEntry.ofText? text = some entry := by
  rcases load_cases (Holds.nil (α := α)) (inPathOrder documents) with
    ⟨final, hfinal, hholds⟩ | ⟨_, _, _, _, -, herror, -⟩
  · cases hfinal.symm.trans h
    refine ⟨?_, fun entry hentry => ?_⟩
    · exact List.pairwise_map.mpr (List.pairwise_map.mpr hholds.names)
    · obtain ⟨place, hplace, rfl⟩ := List.mem_map.mp hentry
      obtain ⟨document, -, -, hread⟩ := hholds.document_of_located hplace
      exact ⟨document.text, hread⟩
  · cases herror.symm.trans h

/-- What holds of the entries that come with the library, and of all that are read, holds of all
entries that a server can have; and these have different names. -/
theorem Available.named {catalog standard : Catalog α} (h : catalog.Available standard)
    {P : α → Prop} (hnamed : standard.Named) (hstandard : ∀ entry ∈ standard.entries, P entry)
    (hread : ∀ text entry, CatalogEntry.ofText? text = some entry → P entry) :
    catalog.Named ∧ ∀ entry ∈ catalog.entries, P entry := by
  rcases h with rfl | ⟨documents, hdocuments⟩
  · exact ⟨hnamed, hstandard⟩
  · obtain ⟨hnamed, htexts⟩ := named_of_documents hdocuments
    refine ⟨hnamed, fun entry hentry => ?_⟩
    obtain ⟨text, htext⟩ := htexts entry hentry
    exact hread text entry htext

end Catalog

namespace CatalogSource

variable {α : Type} [CatalogEntry α] {catalog : Catalog α} {render : α → Except CatalogError Json}

/-- What is written for an entry shows the name and the labels of the entry. -/
def Faithful (catalog : Catalog α) (render : α → Except CatalogError Json) : Prop :=
  ∀ entry ∈ catalog.entries, ∀ object, render entry = .ok object →
    objectName object = CatalogEntry.name entry ∧ object.labels = CatalogEntry.labels entry

omit [CatalogEntry α] in
/-- An entry comes out as an object exactly when it is written as one. -/
theorem rendered_eq_ok_iff {entry : α} {object : Json} :
    rendered render entry = .ok object ↔ render entry = .ok object := by
  unfold rendered
  cases render entry <;> simp [Except.mapError]

variable {options : ListOptions} {part : ListPart Json}

/-- All entries that a selector selects are written, in order. -/
theorem list_eq_ok_iff (hstart : options.start = .ok 0) (hlimit : options.pageSize = 0)
    (selector : Selector) :
    (ofCatalog catalog render).list options selector = .ok part ↔
      (catalog.entries.filter selector.selects).mapM (rendered render) = .ok part.items ∧
        part.continueToken = none := by
  have hpage : paginate catalog.entries options selector =
      .ok ⟨catalog.entries.filter selector.selects, none⟩ := by
    rw [paginate_of_start catalog.entries selector hstart, hlimit]
    rfl
  unfold ofCatalog
  simp only [hpage]
  rw [result_bind_eq_ok_iff]
  constructor
  · rintro ⟨page, hpage, hwritten⟩
    cases hpage
    obtain ⟨items, hitems, hpart⟩ := result_bind_eq_ok_iff.mp hwritten
    cases hpart
    exact ⟨hitems, rfl⟩
  · rintro ⟨hitems, htoken⟩
    refine ⟨_, rfl, result_bind_eq_ok_iff.mpr ⟨part.items, hitems, ?_⟩⟩
    rw [← htoken]
    rfl

/-- Everything satisfies the selector of everything. -/
theorem filter_everything (entries : List α) :
    entries.filter Selector.everything.selects = entries :=
  List.filter_eq_self.mpr fun _ _ => rfl

/-- The objects of a source can be filtered by the labels, and found by the names, that they
show. -/
structure Coherent (source : CatalogSource) : Prop where
  /-- Of the whole list, a selector leaves the objects whose own labels satisfy it. -/
  selects : ∀ (options others : ListOptions) (part : ListPart Json) (selector : Selector),
    options.start = .ok 0 → options.pageSize = 0 → others.start = .ok 0 → others.pageSize = 0 →
    source.list options .everything = .ok part → source.list others selector =
      .ok { part with items := part.items.filter fun object => selector.holds object.labels }
  /-- Of the whole list, a name stands for the object that shows it, if one does. -/
  gets : ∀ (options : ListOptions) (part : ListPart Json) (name : String),
    options.start = .ok 0 → options.pageSize = 0 → source.list options .everything = .ok part →
    ∃ found : Option Json, source.get name = .ok found ∧
      part.items.filter (fun object => objectName object = name) = found.toList

/-- The entry of a name is found and written. -/
theorem get_eq_find (name : String) :
    (ofCatalog catalog render).get name =
      match catalog.entries.find? fun entry => CatalogEntry.name entry = name with
      | some entry => (rendered render entry).map some
      | none => .ok none := by
  have hlocate : catalog.entries.find? (fun entry => CatalogEntry.name entry = name) =
      (catalog.locate? name).map (·.2) := List.find?_map
  unfold ofCatalog Catalog.byName
  simp only [hlocate]
  cases catalog.locate? name <;> rfl

/-- Entries under different names that show what they are filtered and found by. -/
theorem coherent_of_catalog (hnamed : catalog.Named) (hfaithful : Faithful catalog render) :
    (ofCatalog catalog render).Coherent where
  selects options others part selector hstart hlimit hstart' hlimit' h := by
    rw [list_eq_ok_iff hstart hlimit, filter_everything] at h
    rw [list_eq_ok_iff hstart' hlimit']
    refine ⟨result_mapM_filter h.1 fun entry hentry object hobject => ?_, h.2⟩
    show selector.holds (CatalogEntry.labels entry) = _
    rw [(hfaithful entry hentry object (rendered_eq_ok_iff.mp hobject)).2]
  gets options part name hstart hlimit h := by
    rw [list_eq_ok_iff hstart hlimit, filter_everything] at h
    have hnames : (catalog.entries.find? fun entry => CatalogEntry.name entry = name).toList.mapM
        (rendered render) = .ok (part.items.filter fun object => objectName object = name) := by
      rw [← filter_eq_find hnamed]
      refine result_mapM_filter h.1 fun entry hentry object hobject => ?_
      rw [(hfaithful entry hentry object (rendered_eq_ok_iff.mp hobject)).1]
    rw [get_eq_find]
    cases hfind : catalog.entries.find? fun entry => CatalogEntry.name entry = name with
    | none =>
        rw [hfind] at hnames
        exact ⟨none, rfl, (Except.ok.inj hnames).symm⟩
    | some entry =>
        rw [hfind, Option.toList_some, List.mapM_cons, result_bind_eq_ok_iff] at hnames
        obtain ⟨object, hobject, hrest⟩ := hnames
        refine ⟨some object, ?_, (Except.ok.inj hrest).symm⟩
        show (rendered render entry).map some = _
        rw [hobject]
        rfl

end CatalogSource

/-! ## Descriptors, outlines and layouts -/

namespace ResourceDescriptor

/-- A descriptor that is read has the metadata that is read. -/
theorem proper_of_text {text : String} {d : ResourceDescriptor}
    (h : CatalogEntry.ofText? text = some d) : d.metadata.Proper := by
  obtain ⟨value, -, hread⟩ := Option.bind_eq_some_iff.mp h
  unfold ofJson? at hread
  simp only [Option.bind_eq_bind, Option.bind_eq_some_iff] at hread
  obtain ⟨record, -, apiVersion, -, kind, -, metadata, hmetadata, hspec⟩ := hread
  obtain ⟨spec, -, hd⟩ := Json.Record.required_eq_some_iff.mp hspec
  obtain ⟨given, -, hgiven⟩ := Json.Record.required_eq_some_iff.mp hmetadata
  unfold withSpec? at hd
  simp only [Option.bind_eq_bind, Option.bind_eq_some_iff, Option.pure_def] at hd
  obtain ⟨_, -, _, -, _, -, _, -, hd⟩ := hd
  cases hd
  exact ObjectMeta.proper_of_json hgiven

/-- The object of a descriptor shows the name and the labels of the descriptor. -/
theorem shows {d : ResourceDescriptor} (h : d.metadata.Proper) :
    objectName d.toJson = CatalogEntry.name d ∧ d.toJson.labels = CatalogEntry.labels d :=
  have hmetadata := ObjectMeta.get_metadata ..
  ⟨ObjectMeta.object_name_eq h hmetadata, ObjectMeta.labels_eq h hmetadata⟩

end ResourceDescriptor

namespace ResourceOutline

/-- An outline that is read has the metadata that is read. -/
theorem proper_of_text {text : String} {outline : ResourceOutline}
    (h : CatalogEntry.ofText? text = some outline) : outline.metadata.Proper := by
  obtain ⟨value, -, hread⟩ := Option.bind_eq_some_iff.mp h
  unfold ofJson? at hread
  simp only [Option.bind_eq_bind, Option.bind_eq_some_iff, Option.pure_def] at hread
  obtain ⟨record, -, apiVersion, -, kind, -, metadata, hmetadata, spec, -, houtline⟩ := hread
  obtain ⟨given, -, hgiven⟩ := Json.Record.required_eq_some_iff.mp hmetadata
  cases houtline
  exact ObjectMeta.proper_of_json hgiven

/-- The object of an outline shows the name and the labels of the outline. -/
theorem shows {outline : ResourceOutline} (h : outline.metadata.Proper) :
    objectName outline.toJson = CatalogEntry.name outline ∧
      outline.toJson.labels = CatalogEntry.labels outline :=
  have hmetadata := ObjectMeta.get_metadata ..
  ⟨ObjectMeta.object_name_eq h hmetadata, ObjectMeta.labels_eq h hmetadata⟩

end ResourceOutline

namespace ResourceLayout

/-- A layout has the name and the labels of its outline, and no other metadata. -/
theorem metadata_of_outline {descriptors : Catalog ResourceDescriptor} {outline : ResourceOutline}
    {layout : ResourceLayout} (h : ofOutline descriptors outline = .ok layout) :
    layout.metadata = { name := outline.metadata.name, labels := outline.metadata.labels } := by
  unfold ofOutline at h
  obtain ⟨header, -, h⟩ := result_bind_eq_ok_iff.mp h
  obtain ⟨pages, -, h⟩ := result_bind_eq_ok_iff.mp h
  cases h
  rfl

/-- The object of a layout shows the name and the labels of its outline. -/
theorem shows {descriptors : Catalog ResourceDescriptor} {outline : ResourceOutline}
    {layout : ResourceLayout} (h : ofOutline descriptors outline = .ok layout) :
    objectName layout.toJson = CatalogEntry.name outline ∧
      layout.toJson.labels = CatalogEntry.labels outline := by
  have hproper : layout.metadata.Proper :=
    ObjectMeta.proper_of_other (by rw [metadata_of_outline h])
  have hmetadata : layout.toJson.get? "metadata" = some layout.metadata.toJson :=
    ObjectMeta.get_metadata ..
  rw [ObjectMeta.object_name_eq hproper hmetadata, ObjectMeta.labels_eq hproper hmetadata,
    metadata_of_outline h]
  exact ⟨rfl, rfl⟩

end ResourceLayout

namespace Kind

/-- A kind whose objects are the descriptors or the outlines of a catalog, or the layouts of these
outlines. -/
inductive Catalogued (kind : Kind) : Prop where
  | descriptors {catalog : Catalog ResourceDescriptor} (h : catalog.Available standardDescriptors)
      (hbackend : kind.backend = .catalog (descriptorSource catalog)) : Catalogued kind
  | outlines {catalog : Catalog ResourceOutline} (h : catalog.Available standardOutlines)
      (hbackend : kind.backend = .catalog (outlineSource catalog)) : Catalogued kind
  | layouts {descriptors : Catalog ResourceDescriptor} {catalog : Catalog ResourceOutline}
      (h : catalog.Available standardOutlines)
      (hbackend : kind.backend = .catalog (layoutSource descriptors catalog)) : Catalogued kind

/-- The descriptors that a server can have are of different names, and have nothing in their
metadata but what is read. -/
theorem proper_descriptors {catalog : Catalog ResourceDescriptor}
    (h : catalog.Available standardDescriptors) :
    catalog.Named ∧ ∀ d ∈ catalog.entries, d.metadata.Proper := by
  have hother : ∀ d ∈ standardDescriptors.entries, d.metadata.other = [] := by decide
  exact h.named (by unfold Catalog.Named; decide)
    (fun d hd => ObjectMeta.proper_of_other (hother d hd))
    fun _ _ => ResourceDescriptor.proper_of_text

/-- So are the outlines. -/
theorem proper_outlines {catalog : Catalog ResourceOutline}
    (h : catalog.Available standardOutlines) :
    catalog.Named ∧ ∀ outline ∈ catalog.entries, outline.metadata.Proper := by
  have hother : ∀ outline ∈ standardOutlines.entries, outline.metadata.other = [] := by decide
  exact h.named (by unfold Catalog.Named; decide)
    (fun outline houtline => ObjectMeta.proper_of_other (hother outline houtline))
    fun _ _ => ResourceOutline.proper_of_text

/-- The objects of a catalog are filtered and found by what they show. -/
theorem Catalogued.coherent {kind : Kind} (h : kind.Catalogued) :
    ∃ source, kind.backend = .catalog source ∧ source.Coherent := by
  cases h with
  | descriptors h hbackend =>
      obtain ⟨hnamed, hproper⟩ := proper_descriptors h
      refine ⟨_, hbackend, CatalogSource.coherent_of_catalog hnamed ?_⟩
      intro d hd object hobject
      cases hobject
      exact ResourceDescriptor.shows (hproper d hd)
  | outlines h hbackend =>
      obtain ⟨hnamed, hproper⟩ := proper_outlines h
      refine ⟨_, hbackend, CatalogSource.coherent_of_catalog hnamed ?_⟩
      intro outline houtline object hobject
      cases hobject
      exact ResourceOutline.shows (hproper outline houtline)
  | @layouts descriptors catalog h hbackend =>
      refine ⟨_, hbackend, CatalogSource.coherent_of_catalog (proper_outlines h).1 ?_⟩
      intro outline _ object hobject
      have hwritten : (ResourceLayout.ofOutline descriptors outline).map ResourceLayout.toJson =
          .ok object := hobject
      cases hlayout : ResourceLayout.ofOutline descriptors outline with
      | error e =>
          rw [hlayout] at hwritten
          cases hwritten
      | ok layout =>
          rw [hlayout] at hwritten
          cases hwritten
          exact ResourceLayout.shows hlayout

end Kind

end VirtualApi

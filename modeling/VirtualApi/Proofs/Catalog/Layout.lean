import VirtualApi.Catalog.Layout
import VirtualApi.Proofs.Result

/-!
# Layouts of outlines

A layout has the shape of its outline, block by block (`Arrangement.Matching`), and each block
carries the resource that it refers to. Read `resolve_block_eq_ok_iff` and
`resolve_block_eq_error_iff` first: what becomes of one block. The traversal of header, pages and
sections takes the blocks in the order of `Arrangement.blocks`, which is what decides the error. The
main theorem is `layout_follows_outline`.
-/

namespace VirtualApi

/-! ## Arrangements -/

section Matching

variable {α β : Type}

/-- Two sections have the same name, and their blocks correspond one by one. -/
structure Section.Matching (R : α → β → Prop) (first : Section α) (second : Section β) : Prop where
  name : second.name = first.name
  blocks : List.Forall₂ R first.blocks second.blocks

/-- Two pages have the same name, and their sections correspond one by one. -/
structure Page.Matching (R : α → β → Prop) (first : Page α) (second : Page β) : Prop where
  name : second.name = first.name
  sections : List.Forall₂ (Section.Matching R) first.sections second.sections

/-- Two arrangements are of the same resource and have the same shape, and their blocks correspond
one by one. -/
structure Arrangement.Matching (R : α → β → Prop) (first : Arrangement α) (second : Arrangement β) :
    Prop where
  resource : second.resource = first.resource
  defaultLayout : second.defaultLayout = first.defaultLayout
  header : Option.Rel R first.header second.header
  pages : List.Forall₂ (Page.Matching R) first.pages second.pages

/-- The blocks of a page, section by section. -/
def Page.blocks (page : Page α) : List α := page.sections.flatMap (·.blocks)

/-- The blocks of an arrangement: the header, then page by page. -/
def Arrangement.blocks (arrangement : Arrangement α) : List α :=
  arrangement.header.toList ++ arrangement.pages.flatMap (·.blocks)

end Matching

namespace ResourceLayout

/-! ## The traversal -/

section Traversal

variable {resolve : BlockOutline → Except CatalogError BlockLayout} {e : CatalogError}

/-- A section is replaced when each of its blocks is. -/
theorem resolve_section_eq_ok_iff {part : Section BlockOutline} {shown : Section BlockLayout} :
    resolveSection resolve part = .ok shown ↔
      Section.Matching (fun block shown => resolve block = .ok shown) part shown := by
  unfold resolveSection
  rw [result_bind_eq_ok_iff]
  constructor
  · intro ⟨blocks, hblocks, hshown⟩
    cases hshown
    exact ⟨rfl, result_mapM_eq_ok_iff.mp hblocks⟩
  · intro ⟨hname, hblocks⟩
    refine ⟨shown.blocks, result_mapM_eq_ok_iff.mpr hblocks, ?_⟩
    rw [← hname]
    rfl

/-- A page is replaced when each of its sections is. -/
theorem resolve_page_eq_ok_iff {page : Page BlockOutline} {shown : Page BlockLayout} :
    resolvePage resolve page = .ok shown ↔
      Page.Matching (fun block shown => resolve block = .ok shown) page shown := by
  unfold resolvePage
  rw [result_bind_eq_ok_iff]
  simp only [result_mapM_eq_ok_iff, resolve_section_eq_ok_iff]
  constructor
  · intro ⟨sections, hsections, hshown⟩
    cases hshown
    exact ⟨rfl, hsections⟩
  · intro ⟨hname, hsections⟩
    refine ⟨shown.sections, hsections, ?_⟩
    rw [← hname]
    rfl

/-- A section fails as the first of its blocks to fail. -/
theorem resolve_section_eq_error_iff {part : Section BlockOutline} :
    resolveSection resolve part = .error e ↔ FailsFirst resolve part.blocks e := by
  unfold resolveSection
  rw [result_bind_pure_eq_error_iff, result_mapM_eq_error_iff]

/-- A page fails as the first of its blocks to fail. -/
theorem resolve_page_eq_error_iff {page : Page BlockOutline} :
    resolvePage resolve page = .error e ↔ FailsFirst resolve page.blocks e := by
  unfold resolvePage Page.blocks
  rw [result_bind_pure_eq_error_iff, result_mapM_eq_error_iff,
    fails_first_flatMap_iff fun _ _ => resolve_section_eq_error_iff]

/-- A header is replaced when there is one. -/
theorem header_eq_ok_iff {header : Option BlockOutline} {shown : Option BlockLayout} :
    header.mapM resolve = .ok shown ↔
      Option.Rel (fun block shown => resolve block = .ok shown) header shown := by
  cases header with
  | none =>
      constructor
      · intro h
        cases h
        exact .none
      · intro h
        cases h
        rfl
  | some block =>
      show (resolve block >>= fun shown => pure (some shown)) = _ ↔ _
      rw [result_bind_eq_ok_iff]
      constructor
      · intro ⟨result, hresult, hshown⟩
        cases hshown
        exact .some hresult
      · intro h
        cases h with
        | some hresult => exact ⟨_, hresult, rfl⟩

/-- A header fails as a list of at most one block does. -/
theorem header_eq_error_iff {header : Option BlockOutline} :
    header.mapM resolve = .error e ↔ FailsFirst resolve header.toList e := by
  cases header with
  | none => exact iff_of_false nofun not_fails_first_nil
  | some block =>
      show (resolve block >>= fun shown => pure (some shown)) = _ ↔ _
      rw [result_bind_pure_eq_error_iff, Option.toList_some, fails_first_cons_iff]
      exact (or_iff_left fun h => not_fails_first_nil h.2).symm

end Traversal

/-! ## One block -/

variable (descriptors : Catalog ResourceDescriptor) (outline : ResourceOutline)

/-- A descriptor is of this group and kind, `core` standing for the empty group. -/
def Describes (d : ResourceDescriptor) (group kind : String) : Prop :=
  d.resource.group = (if group = "core" then "" else group) ∧ d.resource.kind = kind

instance (d : ResourceDescriptor) (group kind : String) : Decidable (Describes d group kind) :=
  inferInstanceAs (Decidable (_ ∧ _))

/-- A descriptor is the first of the catalog that is of this group and kind. -/
def DescribesFirst (group kind : String) (d : ResourceDescriptor) : Prop :=
  ∃ before after, descriptors.entries = before ++ d :: after ∧ Describes d group kind ∧
    ∀ earlier ∈ before, ¬ Describes earlier group kind

/-- What a block is resolved to: the resource and the columns that it shows. -/
inductive Target (block : BlockOutline) : Option ResourceId → List ResourceColumn → Prop
  /-- A reference stands for the resource of the first descriptor, with its columns. -/
  | referred {reference : GroupKind} {d : ResourceDescriptor}
      (hreference : block.reference = some reference)
      (hfirst : DescribesFirst descriptors reference.group reference.kind d) :
      Target block (some d.resource) d.columns
  /-- A block of the object itself stands for the outline's resource. -/
  | own {d : ResourceDescriptor} (hreference : block.reference = none) (hkind : block.kind = .own)
      (hfirst : DescribesFirst descriptors outline.spec.resource.group
        outline.spec.resource.kind d) :
      Target block (some outline.spec.resource) d.columns
  /-- A resource that no descriptor is of has no columns. -/
  | undescribed (hreference : block.reference = none) (hkind : block.kind = .own)
      (hnone : ∀ d ∈ descriptors.entries,
        ¬ Describes d outline.spec.resource.group outline.spec.resource.kind) :
      Target block (some outline.spec.resource) []
  /-- A part of the object stands for no resource. -/
  | part (hreference : block.reference = none) (hkind : block.kind = .block) : Target block none []

/-- A block of a layout is that of the outline, with what it is resolved to. -/
structure Shows (block : BlockOutline) (shown : BlockLayout) : Prop where
  kind : shown.kind = block.kind
  name : shown.name = block.name
  fieldPath : shown.fieldPath = block.fieldPath
  target : Target descriptors outline block shown.resource shown.columns

/-- A block can be resolved: what it refers to has a descriptor, and it refers to something if it
shows objects of another resource. -/
def Resolvable (block : BlockOutline) : Prop :=
  (∀ reference ∈ block.reference,
    ∃ d ∈ descriptors.entries, Describes d reference.group reference.kind) ∧
  (block.kind = .subTable ∨ block.kind = .connection → block.reference ≠ none)

instance (block : BlockOutline) : Decidable (Resolvable descriptors block) :=
  inferInstanceAs (Decidable (_ ∧ _))

/-- What is wrong with a block that cannot be resolved. -/
inductive Fault (block : BlockOutline) : CatalogError → Prop
  | unresolved {reference : GroupKind} (hreference : block.reference = some reference)
      (hnone : ∀ d ∈ descriptors.entries, ¬ Describes d reference.group reference.kind) :
      Fault block (.unresolved outline.name reference.group reference.kind)
  | missing (hreference : block.reference = none)
      (hkind : block.kind = .subTable ∨ block.kind = .connection) :
      Fault block (.missingReference outline.name block.name)

variable {descriptors : Catalog ResourceDescriptor} {outline : ResourceOutline}
  {block : BlockOutline} {shown : BlockLayout} {group kind : String} {d : ResourceDescriptor}

/-- Describing a group and kind can be computed. -/
theorem describes_iff : d.describes group kind = true ↔ Describes d group kind := by
  simp [ResourceDescriptor.describes, Describes]

/-- The descriptor that is found is the first one. -/
theorem descriptor_eq_some_iff :
    descriptor? descriptors group kind = some d ↔ DescribesFirst descriptors group kind d := by
  unfold descriptor? DescribesFirst
  rw [List.find?_eq_some_iff_append]
  simp only [describes_iff, Bool.not_eq_true', ← Bool.not_eq_true]
  constructor
  · intro ⟨hdescribes, before, after, hentries, hearlier⟩
    exact ⟨before, after, hentries, hdescribes, hearlier⟩
  · intro ⟨before, after, hentries, hdescribes, hearlier⟩
    exact ⟨hdescribes, before, after, hentries, hearlier⟩

/-- No descriptor is found when none is of the group and kind. -/
theorem descriptor_eq_none_iff :
    descriptor? descriptors group kind = none ↔
      ∀ d ∈ descriptors.entries, ¬ Describes d group kind := by
  unfold descriptor?
  simp only [List.find?_eq_none, describes_iff]

/-- A block is replaced by one that shows it. -/
theorem resolve_block_eq_ok_iff :
    resolveBlock descriptors outline block = .ok shown ↔
      Shows descriptors outline block shown := by
  constructor
  · intro h
    unfold resolveBlock at h
    split at h
    · next reference kind hreference =>
        split at h
        · next d hd =>
            cases h
            exact ⟨rfl, rfl, rfl, .referred hreference (descriptor_eq_some_iff.mp hd)⟩
        · cases h
    · next hreference hkind =>
        cases h
        refine ⟨rfl, rfl, rfl, ?_⟩
        dsimp only
        cases hfound :
            descriptor? descriptors outline.spec.resource.group outline.spec.resource.kind with
        | some d => exact .own hreference hkind (descriptor_eq_some_iff.mp hfound)
        | none => exact .undescribed hreference hkind (descriptor_eq_none_iff.mp hfound)
    · next hreference hkind =>
        cases h
        exact ⟨rfl, rfl, rfl, .part hreference hkind⟩
    · cases h
    · cases h
  · intro ⟨hkind, hname, hpath, htarget⟩
    obtain ⟨kind, name, fieldPath, resource, columns⟩ := shown
    cases hkind
    cases hname
    cases hpath
    cases htarget with
    | referred hreference hfirst =>
        simp only [resolveBlock, hreference, descriptor_eq_some_iff.mpr hfirst]
    | own hreference hkind hfirst =>
        simp only [resolveBlock, hreference, hkind, descriptor_eq_some_iff.mpr hfirst,
          Option.map_some, Option.getD_some]
    | undescribed hreference hkind hnone =>
        simp only [resolveBlock, hreference, hkind, descriptor_eq_none_iff.mpr hnone,
          Option.map_none, Option.getD_none]
    | part hreference hkind => simp only [resolveBlock, hreference, hkind]

/-- A block is refused for what is wrong with it. -/
theorem resolve_block_eq_error_iff {e : CatalogError} :
    resolveBlock descriptors outline block = .error e ↔ Fault descriptors outline block e := by
  constructor
  · intro h
    unfold resolveBlock at h
    split at h
    · next reference kind hreference =>
        split at h
        · cases h
        · next hnone =>
            cases h
            exact .unresolved hreference (descriptor_eq_none_iff.mp hnone)
    · cases h
    · cases h
    · next hreference hkind =>
        cases h
        exact .missing hreference (Or.inl hkind)
    · next hreference hkind =>
        cases h
        exact .missing hreference (Or.inr hkind)
  · intro h
    cases h with
    | unresolved hreference hnone =>
        simp only [resolveBlock, hreference, descriptor_eq_none_iff.mpr hnone]
    | missing hreference hkind =>
        rcases hkind with hkind | hkind <;> simp only [resolveBlock, hreference, hkind]

/-- Something is wrong with a block exactly when it cannot be resolved. -/
theorem exists_fault_iff :
    (∃ e, Fault descriptors outline block e) ↔ ¬ Resolvable descriptors block := by
  constructor
  · intro ⟨e, hfault⟩ ⟨hdescribed, hreferring⟩
    cases hfault with
    | unresolved hreference hnone =>
        obtain ⟨d, hd, hdescribes⟩ := hdescribed _ hreference
        exact hnone d hd hdescribes
    | missing hreference hkind => exact hreferring hkind hreference
  · intro hnot
    by_cases hreferring : (block.kind = .subTable ∨ block.kind = .connection) →
        block.reference ≠ none
    · have hundescribed : ¬ ∀ reference ∈ block.reference,
          ∃ d ∈ descriptors.entries, Describes d reference.group reference.kind :=
        fun hdescribed => hnot ⟨hdescribed, hreferring⟩
      simp only [not_forall, not_exists, not_and] at hundescribed
      obtain ⟨reference, hreference, hnone⟩ := hundescribed
      exact ⟨_, .unresolved hreference hnone⟩
    · simp only [not_forall, not_not] at hreferring
      obtain ⟨hkind, hreference⟩ := hreferring
      exact ⟨_, .missing hreference hkind⟩

/-- A block is replaced exactly when it can be resolved. -/
theorem exists_resolve_block_iff :
    (∃ shown, resolveBlock descriptors outline block = .ok shown) ↔
      Resolvable descriptors block := by
  rw [← Decidable.not_not (p := Resolvable descriptors block), ← exists_fault_iff]
  simp only [← resolve_block_eq_error_iff]
  cases resolveBlock descriptors outline block with
  | error e => exact ⟨nofun, fun hnot => absurd ⟨e, rfl⟩ hnot⟩
  | ok shown => exact ⟨fun _ => nofun, fun _ => ⟨shown, rfl⟩⟩

/-! ## Outlines -/

/-- A layout is that of an outline when it keeps name and labels, and each of its blocks shows one
of the outline, in the same place. -/
theorem of_outline_eq_ok_iff {layout : ResourceLayout} :
    ofOutline descriptors outline = .ok layout ↔
      layout.metadata = { name := outline.metadata.name, labels := outline.metadata.labels } ∧
        outline.spec.Matching (Shows descriptors outline) layout.spec := by
  unfold ofOutline
  simp only [result_bind_eq_ok_iff, header_eq_ok_iff, result_mapM_eq_ok_iff,
    resolve_page_eq_ok_iff, resolve_block_eq_ok_iff]
  constructor
  · intro ⟨header, hheader, pages, hpages, hlayout⟩
    cases hlayout
    exact ⟨rfl, rfl, rfl, hheader, hpages⟩
  · intro ⟨hmetadata, hresource, hdefault, hheader, hpages⟩
    refine ⟨layout.spec.header, hheader, layout.spec.pages, hpages, ?_⟩
    rw [← hmetadata, ← hresource, ← hdefault]
    rfl

/-- An outline fails as the first of its blocks to fail. -/
theorem of_outline_eq_error_iff {e : CatalogError} :
    ofOutline descriptors outline = .error e ↔
      FailsFirst (resolveBlock descriptors outline) outline.spec.blocks e := by
  unfold ofOutline Arrangement.blocks
  rw [result_bind_eq_error_iff, fails_first_append_iff]
  simp only [result_bind_pure_eq_error_iff, header_eq_error_iff, result_mapM_eq_error_iff,
    exists_and_right, comes_through_iff fun _ => header_eq_error_iff,
    fails_first_flatMap_iff fun _ _ => resolve_page_eq_error_iff]

/-- An outline has a layout exactly when each of its blocks can be resolved: whatever it refers to
has a descriptor, and a block that shows objects of another resource refers to one. The layout keeps
the shape of the outline, and each block carries what it is resolved to: the resource and the
columns of the first descriptor, or the outline's own resource. Where there is no layout, the first
block that cannot be resolved decides the error: the header, then page by page. -/
theorem layout_follows_outline (descriptors : Catalog ResourceDescriptor)
    (outline : ResourceOutline) :
    ((∃ layout, ofOutline descriptors outline = .ok layout) ↔
      ∀ block ∈ outline.spec.blocks, Resolvable descriptors block) ∧
    (∀ layout, ofOutline descriptors outline = .ok layout ↔
      layout.metadata = { name := outline.metadata.name, labels := outline.metadata.labels } ∧
        outline.spec.Matching (Shows descriptors outline) layout.spec) ∧
    ∀ e, ofOutline descriptors outline = .error e ↔
      ∃ before block after, outline.spec.blocks = before ++ block :: after ∧
        (∀ earlier ∈ before, Resolvable descriptors earlier) ∧
        Fault descriptors outline block e := by
  refine ⟨?_, fun layout => of_outline_eq_ok_iff, fun e => ?_⟩
  · rw [comes_through_iff fun _ => of_outline_eq_error_iff]
    simp only [exists_resolve_block_iff]
  · rw [of_outline_eq_error_iff]
    simp only [FailsFirst, exists_resolve_block_iff, resolve_block_eq_error_iff]

/-! ## Workloads with their pods -/

/-- Two descriptors of pods, of which the first one counts. -/
def podDescriptors : Catalog ResourceDescriptor where
  located := [
    ("core/pods.yaml", {
      metadata := { name := some "core-v1-pods" }
      resource := { version := "v1", name := "pods", kind := "Pod" }
      columns := [{ name := "Phase", pointer := "/status/phase" }] }),
    ("core/pods-wide.yaml", {
      metadata := { name := some "core-v1-pods-wide" }
      resource := { version := "v1", name := "pods", kind := "Pod" } })]

/-- An outline that shows a workload, and behind it these blocks. -/
def workloadOutline (blocks : List BlockOutline) : ResourceOutline where
  metadata := { name := some "apps-v1-deployments" }
  spec := {
    resource := { group := "apps", version := "v1", name := "deployments", kind := "Deployment" }
    header := some { kind := .own }
    pages := [⟨"Overview", [⟨"Pods", blocks⟩]⟩] }

/-- An outline with a table of pods has a layout, which shows them. A connection to nothing is the
first block at fault, although the one behind it has no descriptor either. -/
theorem workload_outlines_followed :
    (∀ block ∈ (workloadOutline
        [{ kind := .subTable, reference := some ⟨"core", "Pod"⟩ }]).spec.blocks,
      Resolvable podDescriptors block) ∧
    (∃ layout, ofOutline podDescriptors (workloadOutline
        [{ kind := .subTable, reference := some ⟨"core", "Pod"⟩ }]) = .ok layout ∧
      (workloadOutline [{ kind := .subTable, reference := some ⟨"core", "Pod"⟩ }]).spec.Matching
        (Shows podDescriptors (workloadOutline
          [{ kind := .subTable, reference := some ⟨"core", "Pod"⟩ }])) layout.spec) ∧
    ofOutline podDescriptors (workloadOutline [
        { kind := .connection, name := "Owner" },
        { kind := .subTable, reference := some ⟨"batch", "Job"⟩ }]) =
      .error (.missingReference "apps-v1-deployments" "Owner") := by
  have hresolvable : ∀ block ∈ (workloadOutline
      [{ kind := .subTable, reference := some ⟨"core", "Pod"⟩ }]).spec.blocks,
      Resolvable podDescriptors block := by
    decide
  obtain ⟨layout, hlayout⟩ := (layout_follows_outline podDescriptors _).1.mpr hresolvable
  have hshows := ((layout_follows_outline podDescriptors _).2.1 layout).mp hlayout
  refine ⟨hresolvable, ⟨layout, hlayout, hshows.2⟩, ?_⟩
  refine ((layout_follows_outline podDescriptors _).2.2 _).mpr
    ⟨[{ kind := .own }], { kind := .connection, name := "Owner" }, _, rfl, by decide, ?_⟩
  exact .missing rfl (Or.inr rfl)

end ResourceLayout

end VirtualApi

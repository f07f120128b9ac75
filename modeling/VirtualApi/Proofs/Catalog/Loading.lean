import VirtualApi.Catalog.Descriptor
import VirtualApi.Proofs.Json.Entries
import VirtualApi.Proofs.Result
import VirtualApi.Proofs.Text.Sorting
import VirtualApi.Proofs.Yaml.Reading

/-!
# Loading a catalog

Documents are read in the order of their paths, whatever order they are given in. `insert_cases`
says what one more document does to a catalog that holds the ones before it, `load_cases` what
reading all of them does, and `loading_is_well_formed` puts it in terms of the documents alone: a
catalog that is loaded holds each of them, and an error is that of the first one at fault.
-/

namespace VirtualApi.Catalog

variable {α : Type} [CatalogEntry α] {documents others before rest : List CatalogDocument}
  {document : CatalogDocument} {catalog : Catalog α}

/-! ## The order of the documents -/

/-- No two documents have the same path. -/
def DistinctPaths (documents : List CatalogDocument) : Prop :=
  documents.Pairwise fun first second => first.path ≠ second.path

instance (documents : List CatalogDocument) : Decidable (DistinctPaths documents) :=
  inferInstanceAs (Decidable (List.Pairwise _ _))

/-- The documents are in increasing path order. -/
def PathOrdered (documents : List CatalogDocument) : Prop :=
  documents.Pairwise fun first second => first.path < second.path

/-- Documents of different paths are put into increasing path order. -/
theorem path_ordered_in_path_order (h : DistinctPaths documents) :
    PathOrdered (inPathOrder documents) := by
  have hperm : (inPathOrder documents).Perm documents := List.mergeSort_perm ..
  have hdistinct : DistinctPaths (inPathOrder documents) :=
    (hperm.pairwise_iff fun hne => hne.symm).mpr h
  have hsorted := pairwise_mergeSort_key CatalogDocument.path documents
  refine (hdistinct.and hsorted).imp ?_
  rintro first second ⟨hne, hle⟩
  exact Entries.key_lt_of_ne hne.symm (String.not_lt.mpr hle)

/-- There is one path order of documents of different paths. -/
theorem in_path_order_of_perm (hperm : others.Perm documents) (h : DistinctPaths documents) :
    inPathOrder others = inPathOrder documents := by
  have hothers : DistinctPaths others := (hperm.pairwise_iff fun hne => hne.symm).mpr h
  have hsame : (inPathOrder others).Perm (inPathOrder documents) :=
    (List.mergeSort_perm ..).trans (hperm.trans (List.mergeSort_perm ..).symm)
  refine List.Perm.eq_of_pairwise (fun first second _ _ hlt hgt => ?_)
    (path_ordered_in_path_order hothers) (path_ordered_in_path_order h) hsame
  exact absurd (String.lt_trans hlt hgt) (String.lt_irrefl _)

/-- Documents that are in path order stay in it. -/
theorem in_path_order_eq_self (h : PathOrdered documents) : inPathOrder documents = documents :=
  List.mergeSort_of_pairwise (h.imp fun hlt => decide_eq_true (String.not_lt.mp fun hgt =>
    String.lt_irrefl _ (String.lt_trans hlt hgt)))

/-- In path order, the documents before one are those of lesser paths. -/
theorem mem_before_iff {after : List CatalogDocument} {other : CatalogDocument}
    (h : PathOrdered (before ++ document :: after)) :
    other ∈ before ↔ other ∈ before ++ document :: after ∧ other.path < document.path := by
  obtain ⟨-, hrest, hcross⟩ := List.pairwise_append.mp h
  constructor
  · exact fun hmem => ⟨List.mem_append_left _ hmem, hcross other hmem document List.mem_cons_self⟩
  · rintro ⟨hmem, hlt⟩
    rcases List.mem_append.mp hmem with hbefore | hnot
    · exact hbefore
    · rcases List.mem_cons.mp hnot with rfl | hafter
      · exact absurd hlt (String.lt_irrefl _)
      · have hgt := (List.pairwise_cons.mp hrest).1 other hafter
        exact absurd (String.lt_trans hlt hgt) (String.lt_irrefl _)

/-! ## What a catalog holds -/

/-- A catalog holds the entries of some documents in their order, under different names. -/
structure Holds (catalog : Catalog α) (documents : List CatalogDocument) : Prop where
  located : List.Forall₂ (fun document (place : String × α) =>
    place.1 = document.path ∧ CatalogEntry.ofText? document.text = some place.2)
    documents catalog.located
  names : catalog.located.Pairwise fun first second =>
    CatalogEntry.name first.2 ≠ CatalogEntry.name second.2

namespace Holds

/-- Nothing is held of no documents. -/
theorem nil : Holds (⟨[]⟩ : Catalog α) [] := ⟨.nil, .nil⟩

/-- Each entry that is held is read from one of the documents. -/
theorem document_of_located (h : catalog.Holds documents) {path : String} {entry : α}
    (hmem : (path, entry) ∈ catalog.located) :
    ∃ document ∈ documents, document.path = path ∧
      CatalogEntry.ofText? document.text = some entry := by
  obtain ⟨document, hdocument, hpath, hread⟩ := exists_of_mem_right h.located hmem
  exact ⟨document, hdocument, hpath.symm, hread⟩

/-- Each document is read, and its entry is held under its path. -/
theorem located_of_document (h : catalog.Holds documents) (hmem : document ∈ documents) :
    ∃ entry, CatalogEntry.ofText? document.text = some entry ∧
      (document.path, entry) ∈ catalog.located := by
  obtain ⟨⟨path, entry⟩, hlocated, hpath, hread⟩ := exists_of_mem_left h.located hmem
  cases hpath
  exact ⟨entry, hread, hlocated⟩

/-- The paths of a catalog are those of its documents. -/
theorem paths_eq (h : catalog.Holds documents) : catalog.paths = documents.map (·.path) := by
  have hlocated := h.located
  unfold paths
  clear h
  generalize catalog.located = places at hlocated ⊢
  induction hlocated with
  | nil => rfl
  | cons hfirst _ ih => rw [List.map_cons, List.map_cons, hfirst.1, ih]

/-- Two different places have entries of different names. -/
theorem name_ne (h : catalog.Holds documents) {first second : String × α}
    (hfirst : first ∈ catalog.located) (hsecond : second ∈ catalog.located)
    (hne : first ≠ second) : CatalogEntry.name first.2 ≠ CatalogEntry.name second.2 := by
  have hsymm : Std.Symm fun first second : String × α =>
      CatalogEntry.name first.2 ≠ CatalogEntry.name second.2 := ⟨fun _ _ hname => hname.symm⟩
  exact h.names.forall hfirst hsecond hne

end Holds

/-! ## Finding an entry by its name -/

/-- What is located under a name is held and has it. -/
theorem located_of_locate {name : String} {place : String × α}
    (h : catalog.locate? name = some place) :
    place ∈ catalog.located ∧ CatalogEntry.name place.2 = name :=
  ⟨List.mem_of_find?_eq_some h, by simpa using List.find?_some h⟩

/-- Nothing is located under a name exactly when no entry has it. -/
theorem locate_eq_none_iff {name : String} :
    catalog.locate? name = none ↔
      ∀ place ∈ catalog.located, CatalogEntry.name place.2 ≠ name := by
  simp [locate?]

/-- An entry is found by a name exactly when it is held and has the name. -/
theorem Holds.by_name_eq_ok_iff (h : catalog.Holds documents) {name : String} {entry : α} :
    catalog.byName name = .ok entry ↔
      entry ∈ catalog.entries ∧ CatalogEntry.name entry = name := by
  unfold byName
  constructor
  · intro hfound
    split at hfound
    · next path found hlocate =>
        cases hfound
        obtain ⟨hmem, hname⟩ := located_of_locate hlocate
        exact ⟨List.mem_map_of_mem hmem, hname⟩
    · cases hfound
  · rintro ⟨hmem, hname⟩
    obtain ⟨place, hplace, rfl⟩ := List.mem_map.mp hmem
    split
    · next path found hlocate =>
        obtain ⟨hfound, hfoundName⟩ := located_of_locate hlocate
        -- Were it another place, its name would differ.
        by_cases hsame : (path, found) = place
        · rw [← hsame]
        · exact absurd (hfoundName.trans hname.symm) (h.name_ne hfound hplace hsame)
    · next hlocate => exact absurd hname (locate_eq_none_iff.mp hlocate place hplace)

/-- Nothing is found by a name exactly when no entry has it. -/
theorem by_name_eq_not_found_iff {name : String} :
    catalog.byName name = .error (.notFound name) ↔
      ∀ entry ∈ catalog.entries, CatalogEntry.name entry ≠ name := by
  have hentries : (∀ entry ∈ catalog.entries, CatalogEntry.name entry ≠ name) ↔
      ∀ place ∈ catalog.located, CatalogEntry.name place.2 ≠ name := List.forall_mem_map
  rw [hentries, ← locate_eq_none_iff]
  unfold byName
  split
  · next hlocate => simp [hlocate]
  · next hlocate => simp [hlocate]

/-! ## One document after the other -/

/-- What is wrong with a document that comes after others: it does not read, or it has the name of
one of them. -/
inductive Fault (α : Type) [CatalogEntry α] (before : List CatalogDocument)
    (document : CatalogDocument) : CatalogError → Prop
  | unreadable (hread : (CatalogEntry.ofText? document.text : Option α) = none) :
      Fault α before document (.undecodable document.path)
  | repeated {entry other : α} {earlier : CatalogDocument}
      (hread : CatalogEntry.ofText? document.text = some entry) (hearlier : earlier ∈ before)
      (hother : CatalogEntry.ofText? earlier.text = some other)
      (hname : CatalogEntry.name other = CatalogEntry.name entry) :
      Fault α before document
        (.duplicate (CatalogEntry.name entry) earlier.path document.path)

/-- A document that is at fault with some documents is so with more of them. -/
theorem Fault.of_subset {e : CatalogError} (h : Fault α before document e)
    (hsubset : ∀ other ∈ before, other ∈ others) : Fault α others document e := by
  cases h with
  | unreadable hread => exact .unreadable hread
  | repeated hread hearlier hother hname =>
      exact .repeated hread (hsubset _ hearlier) hother hname

/-- One more document is added to those that a catalog holds, unless it is at fault. -/
theorem insert_cases (h : catalog.Holds before) (document : CatalogDocument) :
    (∃ next, catalog.insert document = .ok next ∧ next.Holds (before ++ [document])) ∨
      ∃ e, catalog.insert document = .error e ∧ Fault α before document e := by
  unfold insert
  cases hread : (CatalogEntry.ofText? document.text : Option α) with
  | none => exact Or.inr ⟨_, rfl, .unreadable hread⟩
  | some entry =>
      dsimp only
      cases hlocate : catalog.locate? (CatalogEntry.name entry) with
      | none =>
          refine Or.inl ⟨_, rfl, ?_, ?_⟩
          · exact List.rel_append h.located (.cons ⟨rfl, hread⟩ .nil)
          · refine List.pairwise_append.mpr ⟨h.names, List.pairwise_singleton _ _, ?_⟩
            intro place hplace last hlast
            rw [List.mem_singleton.mp hlast]
            exact locate_eq_none_iff.mp hlocate place hplace
      | some place =>
          obtain ⟨path, other⟩ := place
          obtain ⟨hplace, hname⟩ := located_of_locate hlocate
          obtain ⟨earlier, hearlier, rfl, hother⟩ := h.document_of_located hplace
          exact Or.inr ⟨_, rfl, .repeated hread hearlier hother hname⟩

/-- Documents are added one after the other until one is at fault with those before it. The
induction is on the documents that are left; the catalog holds the ones that were read. -/
theorem load_cases (h : catalog.Holds before) (rest : List CatalogDocument) :
    (∃ final, rest.foldlM insert catalog = .ok final ∧ final.Holds (before ++ rest)) ∨
      ∃ passed document after e, rest = passed ++ document :: after ∧
        rest.foldlM insert catalog = .error e ∧ Fault α (before ++ passed) document e ∧
        ∃ held : Catalog α, held.Holds (before ++ passed) := by
  induction rest generalizing before catalog with
  | nil => exact Or.inl ⟨catalog, rfl, by rwa [List.append_nil]⟩
  | cons document rest ih =>
      rw [List.foldlM_cons]
      rcases insert_cases h document with ⟨next, hinsert, hnext⟩ | ⟨e, hinsert, hfault⟩
      · rw [hinsert]
        rcases ih hnext with ⟨final, hfinal, hholds⟩ | ⟨passed, faulty, after, e, rfl, hrest⟩
        · exact Or.inl ⟨final, hfinal, by rwa [List.append_assoc] at hholds⟩
        · rw [List.append_assoc] at hrest
          exact Or.inr ⟨document :: passed, faulty, after, e, rfl, hrest⟩
      · rw [hinsert]
        refine Or.inr ⟨[], document, rest, e, rfl, rfl, ?_, catalog, ?_⟩
        · rwa [List.append_nil]
        · rwa [List.append_nil]

/-! ## Loading in terms of the documents -/

/-- The documents whose paths come before that of a document. -/
def earlier (documents : List CatalogDocument) (document : CatalogDocument) :
    List CatalogDocument :=
  documents.filter fun other => other.path < document.path

omit [CatalogEntry α] in
/-- The earlier documents are those of lesser paths. -/
theorem mem_earlier_iff {other : CatalogDocument} :
    other ∈ earlier documents document ↔ other ∈ documents ∧ other.path < document.path := by
  simp [earlier]

/-- A document is the first one at fault, with this error: no document whose path comes before is
at fault with those before it. -/
def FirstFault (α : Type) [CatalogEntry α] (documents : List CatalogDocument)
    (document : CatalogDocument) (e : CatalogError) : Prop :=
  Fault α (earlier documents document) document e ∧
    ∀ other ∈ earlier documents document, ∀ e, ¬ Fault α (earlier documents other) other e

/-- What it is for a catalog to be loaded from documents: it has one entry for each of them, read
from it, in increasing path order and under different names, and finds each by its name. -/
structure LoadedFrom (catalog : Catalog α) (documents : List CatalogDocument) : Prop where
  size : catalog.size = documents.length
  located : ∀ path entry, (path, entry) ∈ catalog.located ↔
    ∃ document ∈ documents, document.path = path ∧
      CatalogEntry.ofText? document.text = some entry
  paths : catalog.paths.Pairwise (· < ·)
  names : catalog.entries.Pairwise fun first second =>
    CatalogEntry.name first ≠ CatalogEntry.name second
  byName : ∀ name entry, catalog.byName name = .ok entry ↔
    entry ∈ catalog.entries ∧ CatalogEntry.name entry = name
  notFound : ∀ name, (∀ entry ∈ catalog.entries, CatalogEntry.name entry ≠ name) ↔
    catalog.byName name = .error (.notFound name)

/-- A catalog that holds the path order of documents is loaded from them. -/
theorem Holds.loaded_from (h : catalog.Holds (inPathOrder documents))
    (hpaths : DistinctPaths documents) : catalog.LoadedFrom documents where
  size := h.located.length_eq.symm.trans (List.mergeSort_perm ..).length_eq
  located path entry := by
    have hmem (document : CatalogDocument) :
        document ∈ inPathOrder documents ↔ document ∈ documents :=
      (List.mergeSort_perm ..).mem_iff
    constructor
    · intro hlocated
      obtain ⟨document, hdocument, hread⟩ := h.document_of_located hlocated
      exact ⟨document, (hmem document).mp hdocument, hread⟩
    · rintro ⟨document, hdocument, rfl, hread⟩
      obtain ⟨found, hfound, hlocated⟩ := h.located_of_document ((hmem document).mpr hdocument)
      rw [hread] at hfound
      cases hfound
      exact hlocated
  paths := by
    rw [h.paths_eq]
    exact List.pairwise_map.mpr (path_ordered_in_path_order hpaths)
  names := List.pairwise_map.mpr h.names
  byName _ _ := h.by_name_eq_ok_iff
  notFound _ := by_name_eq_not_found_iff.symm

/-- Of documents that a catalog holds, none is at fault with the earlier ones. -/
theorem Holds.not_fault (h : catalog.Holds before) (hdocument : document ∈ before)
    {others : List CatalogDocument} (hothers : ∀ other ∈ others, other ∈ before ∧
      other.path < document.path) (e : CatalogError) : ¬ Fault α others document e := by
  obtain ⟨entry, hread, hlocated⟩ := h.located_of_document hdocument
  rintro (hnone | ⟨hread', hother, hreadOther, hname⟩)
  · rw [hread] at hnone
    cases hnone
  · next entry' found other =>
      rw [hread] at hread'
      cases hread'
      obtain ⟨hbefore, hlt⟩ := hothers other hother
      obtain ⟨same, hsame, hlocatedOther⟩ := h.located_of_document hbefore
      rw [hreadOther] at hsame
      cases hsame
      refine h.name_ne hlocatedOther hlocated (fun hplace => ?_) hname
      exact String.ne_of_lt hlt (congrArg Prod.fst hplace)

/-- A document at fault with the ones before it in path order, which a catalog holds, is the first
one at fault. -/
theorem Holds.first_fault {after : List CatalogDocument} {e : CatalogError}
    (h : catalog.Holds before) (hfault : Fault α before document e)
    (horder : inPathOrder documents = before ++ document :: after)
    (hpaths : DistinctPaths documents) : FirstFault α documents document e := by
  have hordered : PathOrdered (before ++ document :: after) :=
    horder ▸ path_ordered_in_path_order hpaths
  have hbefore (other : CatalogDocument) : other ∈ before ↔ other ∈ earlier documents document := by
    have hmem : other ∈ before ++ document :: after ↔ other ∈ documents :=
      horder ▸ (List.mergeSort_perm ..).mem_iff
    rw [mem_before_iff hordered, hmem, mem_earlier_iff]
  refine ⟨hfault.of_subset fun other => (hbefore other).mp, fun other hother => ?_⟩
  have hlt := (mem_earlier_iff.mp hother).2
  refine h.not_fault ((hbefore other).mpr hother) fun third hthird => ?_
  obtain ⟨hdocuments, hthirdLt⟩ := mem_earlier_iff.mp hthird
  have hthirdEarlier : third ∈ earlier documents document :=
    mem_earlier_iff.mpr ⟨hdocuments, String.lt_trans hthirdLt hlt⟩
  exact ⟨(hbefore third).mpr hthirdEarlier, hthirdLt⟩

/-- However documents of different paths are given, loading them comes to the same. A catalog that
is loaded holds each of them once, in path order and by its name, and an error is that of the first
document in path order that does not read or has the name of one before it. -/
theorem loading_is_well_formed (documents : List CatalogDocument)
    (hpaths : DistinctPaths documents) :
    (∀ others, others.Perm documents →
      (ofDocuments others : Except CatalogError (Catalog α)) = ofDocuments documents) ∧
    (∀ catalog : Catalog α, ofDocuments documents = .ok catalog →
      catalog.LoadedFrom documents) ∧
    ∀ e, (ofDocuments documents : Except CatalogError (Catalog α)) = .error e →
      ∃ document ∈ documents, FirstFault α documents document e := by
  refine ⟨fun others hperm => ?_, ?_⟩
  · unfold ofDocuments
    rw [in_path_order_of_perm hperm hpaths]
  · rcases load_cases (Holds.nil (α := α)) (inPathOrder documents) with
      ⟨final, hfinal, hholds⟩ | ⟨passed, document, after, e, horder, herror, hfault, held, hheld⟩
    · refine ⟨fun catalog hcatalog => ?_, fun e he => ?_⟩
      · cases hfinal.symm.trans hcatalog
        exact hholds.loaded_from hpaths
      · cases hfinal.symm.trans he
    · refine ⟨fun catalog hcatalog => ?_, fun e' he => ?_⟩
      · cases herror.symm.trans hcatalog
      · cases herror.symm.trans he
        have hmem : document ∈ documents := by
          have hsorted : document ∈ inPathOrder documents := by simp [horder]
          exact (List.mergeSort_perm ..).mem_iff.mp hsorted
        exact ⟨document, hmem, hheld.first_fault hfault horder hpaths⟩

/-! ## Loads of two documents -/

/-- A text of a descriptor with a name. -/
def descriptorText (name : String) : String :=
  "\x7bmetadata: \x7bname: " ++ name ++ "\x7d, " ++
    "spec: \x7bresource: \x7bversion: v1, name: pods, kind: Pod\x7d\x7d\x7d"

/-- The node that the text is. -/
def descriptorNode (name : String) : Yaml.Node :=
  .mapping [(.scalar "metadata" .plain none,
      .mapping [(.scalar "name" .plain none, .scalar name .plain none)] none),
    (.scalar "spec" .plain none, .mapping [(.scalar "resource" .plain none, .mapping
      [(.scalar "version" .plain none, .scalar "v1" .plain none),
        (.scalar "name" .plain none, .scalar "pods" .plain none),
        (.scalar "kind" .plain none, .scalar "Pod" .plain none)] none)] none)] none

/-- The value that the node has. -/
def descriptorValue (name : String) : Json :=
  .object [("metadata", .object [("name", .str name)]), ("spec", .object [("resource",
    .object [("version", .str "v1"), ("name", .str "pods"), ("kind", .str "Pod")])])]

/-- The descriptor that the text is read as. -/
def descriptorNamed (name : String) : ResourceDescriptor where
  metadata := { name := some name }
  resource := { version := "v1", name := "pods", kind := "Pod" }

/-- The text is read as the descriptor. -/
theorem read_descriptorText {name : String} (hname : name = "a" ∨ name = "b") :
    CatalogEntry.ofText? (descriptorText name) = some (descriptorNamed name) := by
  have hdocument : Yaml.Document.ofText? (descriptorText name).toList =
      some { root := some (descriptorNode name), events := 19 } := by
    rcases hname with rfl | rfl <;> with_unfolding_all rfl
  have hpresent : Yaml.isAbsent? name .plain none = some false := by
    rcases hname with rfl | rfl <;> rfl
  have hread (document : Yaml.Document) :
      Yaml.read? document Yaml.maxLevels ResourceDescriptor.shape (descriptorNode name) =
        pure (descriptorValue name) := by
    simp [descriptorNode, descriptorValue, ResourceDescriptor.shape, ObjectMeta.shape,
      ResourceId.shape, Yaml.maxLevels, Yaml.read_record, Yaml.read_object, Yaml.read_text,
      Yaml.read_optional hpresent, Yaml.resolve?, Yaml.keyText?, Shape.field?, Shape.repeats,
      Shape.optionalFields, List.lookup_cons]
  have hshape : ResourceDescriptor.shape.ofYaml? (descriptorText name).toList =
      some (descriptorValue name) := by
    rw [Shape.ofYaml?, hdocument, Option.bind_eq_bind, Option.bind_some]
    dsimp only
    rw [hread]
    rfl
  show (ResourceDescriptor.shape.ofYaml? (descriptorText name).toList).bind
    ResourceDescriptor.ofJson? = _
  rw [hshape]
  rfl

/-- Two documents in path order are read one after the other. -/
theorem of_two_documents {first second : CatalogDocument} (h : first.path < second.path) :
    (ofDocuments [first, second] : Except CatalogError (Catalog α)) =
      (insert ⟨[]⟩ first >>= (insert · second)) := by
  have hordered : PathOrdered [first, second] :=
    List.pairwise_cons.mpr ⟨by simpa using h, List.pairwise_singleton _ _⟩
  unfold ofDocuments
  rw [in_path_order_eq_self hordered, List.foldlM_cons]
  simp only [List.foldlM_cons, List.foldlM_nil, bind_pure]

/-- Two documents, always given against the order of their paths. With two names they are loaded in
that order; with one name, or without text, the error is that of the document whose path comes first
among those at fault. -/
theorem two_descriptors_load_in_path_order :
    (DistinctPaths [⟨"z.yaml", descriptorText "a"⟩, ⟨"c.yaml", descriptorText "b"⟩] ∧
      ofDocuments [⟨"z.yaml", descriptorText "a"⟩, ⟨"c.yaml", descriptorText "b"⟩] =
        .ok ⟨[("c.yaml", descriptorNamed "b"), ("z.yaml", descriptorNamed "a")]⟩ ∧
      LoadedFrom ⟨[("c.yaml", descriptorNamed "b"), ("z.yaml", descriptorNamed "a")]⟩
        [⟨"z.yaml", descriptorText "a"⟩, ⟨"c.yaml", descriptorText "b"⟩]) ∧
    (DistinctPaths [⟨"z.yaml", descriptorText "a"⟩, ⟨"c.yaml", descriptorText "a"⟩] ∧
      (ofDocuments [⟨"z.yaml", descriptorText "a"⟩, ⟨"c.yaml", descriptorText "a"⟩] :
        Except CatalogError (Catalog ResourceDescriptor)) =
          .error (.duplicate "a" "c.yaml" "z.yaml") ∧
      ∃ document ∈ [⟨"z.yaml", descriptorText "a"⟩, ⟨"c.yaml", descriptorText "a"⟩],
        FirstFault ResourceDescriptor
          [⟨"z.yaml", descriptorText "a"⟩, ⟨"c.yaml", descriptorText "a"⟩] document
          (.duplicate "a" "c.yaml" "z.yaml")) ∧
    DistinctPaths [⟨"z.yaml", ""⟩, ⟨"c.yaml", ""⟩] ∧
      (ofDocuments [⟨"z.yaml", ""⟩, ⟨"c.yaml", ""⟩] :
        Except CatalogError (Catalog ResourceDescriptor)) = .error (.undecodable "c.yaml") ∧
      ∃ document ∈ [⟨"z.yaml", ""⟩, ⟨"c.yaml", ""⟩],
        FirstFault ResourceDescriptor [⟨"z.yaml", ""⟩, ⟨"c.yaml", ""⟩] document
          (.undecodable "c.yaml") := by
  have hdistinct (first second : String) :
      DistinctPaths [⟨"z.yaml", first⟩, ⟨"c.yaml", second⟩] :=
    List.pairwise_cons.mpr ⟨by simp, List.pairwise_singleton _ _⟩
  have hload (first second : String) :
      (ofDocuments [⟨"z.yaml", first⟩, ⟨"c.yaml", second⟩] :
        Except CatalogError (Catalog ResourceDescriptor)) =
        (insert ⟨[]⟩ ⟨"c.yaml", second⟩ >>= (insert · ⟨"z.yaml", first⟩)) := by
    have hordered : "c.yaml" < "z.yaml" := by decide
    rw [← of_two_documents hordered]
    exact (loading_is_well_formed _ (hdistinct first second)).1 _ (List.Perm.swap ..) |>.symm
  have hfirst (name : String) (hname : name = "a" ∨ name = "b") :
      insert ⟨[]⟩ ⟨"c.yaml", descriptorText name⟩ = .ok ⟨[("c.yaml", descriptorNamed name)]⟩ := by
    rw [insert, read_descriptorText hname]
    rfl
  refine ⟨⟨hdistinct _ _, ?_⟩, ⟨hdistinct _ _, ?_⟩, hdistinct _ _, ?_⟩
  · have hloaded : ofDocuments [⟨"z.yaml", descriptorText "a"⟩, ⟨"c.yaml", descriptorText "b"⟩] =
        .ok ⟨[("c.yaml", descriptorNamed "b"), ("z.yaml", descriptorNamed "a")]⟩ := by
      rw [hload, hfirst "b" (.inr rfl)]
      show insert _ _ = _
      rw [insert, read_descriptorText (.inl rfl)]
      rfl
    exact ⟨hloaded, (loading_is_well_formed _ (hdistinct _ _)).2.1 _ hloaded⟩
  · have hrepeated : (ofDocuments
        [⟨"z.yaml", descriptorText "a"⟩, ⟨"c.yaml", descriptorText "a"⟩] :
        Except CatalogError (Catalog ResourceDescriptor)) =
          .error (.duplicate "a" "c.yaml" "z.yaml") := by
      rw [hload, hfirst "a" (.inl rfl)]
      show insert _ _ = _
      rw [insert, read_descriptorText (.inl rfl)]
      rfl
    exact ⟨hrepeated, (loading_is_well_formed _ (hdistinct _ _)).2.2 _ hrepeated⟩
  · have hblank : (ofDocuments [⟨"z.yaml", ""⟩, ⟨"c.yaml", ""⟩] :
        Except CatalogError (Catalog ResourceDescriptor)) = .error (.undecodable "c.yaml") := by
      rw [hload]
      rfl
    exact ⟨hblank, (loading_is_well_formed _ (hdistinct _ _)).2.2 _ hblank⟩

end VirtualApi.Catalog

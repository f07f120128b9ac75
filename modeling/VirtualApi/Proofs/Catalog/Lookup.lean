import VirtualApi.Proofs.Catalog.Loading

/-!
# Finding an entry by the path of its document

A path is looked up without the `./` it begins with, but the documents keep theirs. Hence an entry
is found by its own path exactly when that does not begin with `./`, and every other path comes to
one that does not (`entries_found_by_path_iff`). A document whose path begins with `./` is loaded,
and no path leads to it (`dotted_path_is_not_found`).
-/

namespace VirtualApi.Catalog

/-! ## Leading `./` -/

/-- The path begins with `./`. -/
def BeginsHere (path : String) : Prop := ['.', '/'] <+: path.toList

instance (path : String) : Decidable (BeginsHere path) := inferInstanceAs (Decidable (_ <+: _))

/-- A path that does not begin with `./` stays as it is. -/
theorem trim_here_eq_self {path : List Char} (h : ¬ ['.', '/'] <+: path) :
    trimHere path = path := by
  unfold trimHere
  split
  · exact absurd (List.prefix_append ['.', '/'] _) h
  · rfl

/-- No `./` is left in front. -/
theorem not_prefix_trim_here (path : List Char) : ¬ ['.', '/'] <+: trimHere path := by
  fun_induction trimHere path with
  | case1 rest ih => exact ih
  | case2 path hnot =>
      rintro ⟨rest, rfl⟩
      exact hnot rest rfl

variable {α : Type} {catalog : Catalog α} {documents : List CatalogDocument} {path : String}
  {entry : α}

/-- A path with one more `./` in front is looked up as the path. -/
theorem by_file_dotted (catalog : Catalog α) (path : String) :
    catalog.byFile ("./" ++ path) = catalog.byFile path := by
  unfold byFile
  rw [String.toList_append]
  rfl

/-- Every path is looked up like one that does not begin with `./`. -/
theorem exists_by_file_eq (catalog : Catalog α) (path : String) :
    ∃ plain, ¬ BeginsHere plain ∧ catalog.byFile path = catalog.byFile plain := by
  have hplain := not_prefix_trim_here path.toList
  refine ⟨String.ofList (trimHere path.toList), ?_, ?_⟩
  · rwa [BeginsHere, String.toList_ofList]
  · unfold byFile
    rw [String.toList_ofList, trim_here_eq_self hplain]

/-! ## Look-up in a catalog that was loaded -/

/-- A path without a leading `./` is looked up as it is. -/
theorem by_file_eq (h : ¬ BeginsHere path) :
    catalog.byFile path =
      (catalog.located.reverse.lookup path).elim (.error (.fileNotFound path)) .ok := by
  unfold byFile
  rw [trim_here_eq_self h, String.ofList_toList]
  dsimp only
  cases catalog.located.reverse.lookup path <;> rfl

/-- Of entries under different paths, the one under a path is found. -/
theorem lookup_reverse_eq_some_iff {places : List (String × α)}
    (h : places.Pairwise fun first second => first.1 < second.1) :
    places.reverse.lookup path = some entry ↔ (path, entry) ∈ places := by
  rw [List.lookup_eq_some_iff]
  constructor
  · rintro ⟨before, after, hsplit, -⟩
    exact List.mem_reverse.mp (by simp [hsplit])
  · intro hmem
    obtain ⟨before, after, hsplit⟩ := List.append_of_mem (List.mem_reverse.mpr hmem)
    refine ⟨before, after, hsplit, fun place hplace => ?_⟩
    have hordered := List.pairwise_reverse.mpr h
    rw [hsplit] at hordered
    have hlt : path < place.1 :=
      (List.pairwise_append.mp hordered).2.2 place hplace _ List.mem_cons_self
    simpa using String.ne_of_lt hlt

/-- A path without a leading `./` finds the entry that stands under it. -/
theorem by_file_eq_ok_iff (hordered : catalog.paths.Pairwise (· < ·)) (h : ¬ BeginsHere path) :
    catalog.byFile path = .ok entry ↔ (path, entry) ∈ catalog.located := by
  rw [by_file_eq h, ← lookup_reverse_eq_some_iff (List.pairwise_map.mp hordered)]
  cases catalog.located.reverse.lookup path <;> simp

/-- It finds nothing exactly when no entry stands under it. -/
theorem by_file_eq_not_found_iff (h : ¬ BeginsHere path) :
    catalog.byFile path = .error (.fileNotFound path) ↔ path ∉ catalog.paths := by
  have hnone : catalog.located.reverse.lookup path = none ↔ path ∉ catalog.paths := by
    simp only [List.lookup_eq_none_iff, List.mem_reverse, bne_iff_ne, paths,
      List.mem_map, not_exists, not_and]
    exact forall₂_congr fun _ _ => ne_comm
  rw [by_file_eq h, ← hnone]
  cases catalog.located.reverse.lookup path <;> simp

/-- A path and the entry at its position stand together. -/
theorem exists_located {i : Nat} (h : i < catalog.size) :
    ∃ path entry, catalog.paths[i]? = some path ∧ catalog.entries[i]? = some entry ∧
      (path, entry) ∈ catalog.located := by
  have hlocated : i < catalog.located.length := h
  refine ⟨catalog.located[i].1, catalog.located[i].2, ?_, ?_, List.getElem_mem hlocated⟩
  · rw [paths, List.getElem?_map, List.getElem?_eq_getElem hlocated, Option.map_some]
  · rw [entries, List.getElem?_map, List.getElem?_eq_getElem hlocated, Option.map_some]

variable [CatalogEntry α]

/-- A catalog that was loaded holds the documents in the order of their paths. -/
theorem holds_of_documents (h : ofDocuments documents = .ok catalog) :
    catalog.Holds (inPathOrder documents) := by
  rcases load_cases (Holds.nil (α := α)) (inPathOrder documents) with
    ⟨final, hfinal, hholds⟩ | ⟨_, _, _, e, -, herror, -⟩
  · cases h.symm.trans hfinal
    exact hholds
  · cases h.symm.trans herror

/-- A path that begins with `./` does not find the entry that stands under it: what it finds stands
under another path, and so has another name. -/
theorem Holds.by_file_ne (hholds : catalog.Holds documents)
    (hordered : catalog.paths.Pairwise (· < ·)) (hmem : (path, entry) ∈ catalog.located)
    (h : BeginsHere path) : catalog.byFile path ≠ .ok entry := by
  intro hfound
  obtain ⟨plain, hplain, heq⟩ := exists_by_file_eq catalog path
  have hother := (by_file_eq_ok_iff hordered hplain).mp (heq.symm.trans hfound)
  refine hholds.name_ne hother hmem (fun hsame => ?_) rfl
  cases hsame
  exact hplain h

/-- A catalog that is loaded from documents under different paths. Each entry is found by its own
path exactly when that does not begin with `./`. A `./` in front of a path makes no difference, and
a path without one finds the entry of the document of that path, or nothing where there is none. -/
theorem entries_found_by_path_iff (documents : List CatalogDocument) (catalog : Catalog α)
    (hpaths : DistinctPaths documents) (h : ofDocuments documents = .ok catalog) :
    (∀ i < documents.length, ∃ path entry, catalog.paths[i]? = some path ∧
      catalog.entries[i]? = some entry ∧ (catalog.byFile path = .ok entry ↔ ¬ BeginsHere path)) ∧
    (∀ path, catalog.byFile ("./" ++ path) = catalog.byFile path) ∧
    ∀ path, ¬ BeginsHere path →
      (∀ entry, catalog.byFile path = .ok entry ↔
        ∃ document ∈ documents, document.path = path ∧
          CatalogEntry.ofText? document.text = some entry) ∧
      (catalog.byFile path = .error (.fileNotFound path) ↔
        ∀ document ∈ documents, document.path ≠ path) := by
  have hholds := holds_of_documents h
  have hloaded := hholds.loaded_from hpaths
  refine ⟨fun i hi => ?_, by_file_dotted catalog, fun path hpath => ⟨fun entry => ?_, ?_⟩⟩
  · obtain ⟨path, entry, hpath, hentry, hmem⟩ := exists_located (hloaded.size ▸ hi)
    refine ⟨path, entry, hpath, hentry, fun hfound hdotted => ?_, fun hplain => ?_⟩
    · exact hholds.by_file_ne hloaded.paths hmem hdotted hfound
    · exact (by_file_eq_ok_iff hloaded.paths hplain).mpr hmem
  · rw [by_file_eq_ok_iff hloaded.paths hpath, hloaded.located]
  · rw [by_file_eq_not_found_iff hpath, hholds.paths_eq]
    simp [inPathOrder, List.mem_mergeSort]

/-! ## A descriptor under two paths -/

/-- A text of a descriptor. -/
def podText : String := descriptorText "a"

/-- The descriptor that the text is read as. -/
def podDescriptor : ResourceDescriptor := descriptorNamed "a"

/-- The text is read as the descriptor. -/
theorem read_podText :
    (CatalogEntry.ofText? podText : Option ResourceDescriptor) = some podDescriptor :=
  read_descriptorText (.inl rfl)

/-- One document makes a catalog of one entry. -/
theorem of_podText (path : String) :
    ofDocuments [⟨path, podText⟩] =
      .ok (⟨[(path, podDescriptor)]⟩ : Catalog ResourceDescriptor) := by
  have hinsert : (⟨[]⟩ : Catalog ResourceDescriptor).insert ⟨path, podText⟩ =
      .ok ⟨[(path, podDescriptor)]⟩ := by
    unfold insert
    rw [read_podText]
    rfl
  unfold ofDocuments
  rw [in_path_order_eq_self (List.pairwise_singleton _ _), List.foldlM_cons, hinsert]
  rfl

/-- Without `./` in its path, a document is found with and without one. -/
theorem pods_found_by_path :
    DistinctPaths [⟨"pods.yaml", podText⟩] ∧
    ofDocuments [⟨"pods.yaml", podText⟩] =
      .ok (⟨[("pods.yaml", podDescriptor)]⟩ : Catalog ResourceDescriptor) ∧
    (⟨[("pods.yaml", podDescriptor)]⟩ : Catalog ResourceDescriptor).byFile "pods.yaml" =
      .ok podDescriptor ∧
    (⟨[("pods.yaml", podDescriptor)]⟩ : Catalog ResourceDescriptor).byFile "./pods.yaml" =
      .ok podDescriptor := by
  have hpaths : DistinctPaths [⟨"pods.yaml", podText⟩] := List.pairwise_singleton _ _
  have hload := of_podText "pods.yaml"
  obtain ⟨-, hdotted, hplain⟩ := entries_found_by_path_iff _ _ hpaths hload
  have hfound := ((hplain "pods.yaml" (by decide)).1 podDescriptor).mpr
    ⟨_, List.mem_singleton_self _, rfl, read_podText⟩
  exact ⟨hpaths, hload, hfound, (hdotted "pods.yaml").trans hfound⟩

/-- An entry need not be found by its own path: a document that is given as `./pods.yaml` is not. -/
theorem dotted_path_is_not_found :
    ¬ ∀ (documents : List CatalogDocument) (catalog : Catalog ResourceDescriptor),
      DistinctPaths documents → ofDocuments documents = .ok catalog →
      ∀ (i : Nat) (path : String) (entry : ResourceDescriptor), catalog.paths[i]? = some path →
        catalog.entries[i]? = some entry → catalog.byFile path = .ok entry := by
  intro hall
  have hfound := hall _ _ (List.pairwise_singleton _ _) (of_podText "./pods.yaml") 0 _ _ rfl rfl
  have hmissing : (⟨[("./pods.yaml", podDescriptor)]⟩ : Catalog ResourceDescriptor).byFile
      "./pods.yaml" = .error (.fileNotFound "pods.yaml") := by rfl
  cases hmissing.symm.trans hfound

end VirtualApi.Catalog

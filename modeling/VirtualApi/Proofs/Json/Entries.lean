import Mathlib.Data.List.Forall2
import Mathlib.Data.List.Induction
import VirtualApi.Json.Basic

/-!
# Entries and the fields of objects

What is found for a key after a map was changed. `get_set_self` and `get_set_of_ne` say it for one
change, and `get_of_list_eq_find` for a map that is put together from a list, where the last value
for a key counts. They hold for any list of entries, sorted or not. `Ordered` says that the keys are
in increasing order; `ordered_set` keeps it, and `get_of_mem` finds each entry then.
-/

namespace VirtualApi

namespace Entries

variable {α : Type} {key other : String} {value : α}

/-- A value that is stored is found. -/
@[simp] theorem get_set_self (key : String) (value : α) (entries : Entries α) :
    (set key value entries).get? key = some value := by
  induction entries with
  | nil => simp [set, get?]
  | cons entry rest ih =>
      rcases entry with ⟨k, v⟩
      unfold set
      split
      · simp [get?]
      · next hne =>
          split
          · simp [get?]
          · have hkey : k ≠ key := fun h => hne h.symm
            simp [get?, hkey, ih]

/-- Storing a value leaves what is found for every other key. -/
theorem get_set_of_ne (h : other ≠ key) (entries : Entries α) :
    (set key value entries).get? other = entries.get? other := by
  have hkey : key ≠ other := fun heq => h heq.symm
  induction entries with
  | nil => simp [set, get?, hkey]
  | cons entry rest ih =>
      rcases entry with ⟨k, v⟩
      unfold set
      split
      · next heq =>
          subst heq
          simp [get?, hkey]
      · split
        · simp [get?, hkey]
        · simp [get?, ih]

/-- A map is put together from a list entry by entry. -/
theorem of_list_concat (entries : List (String × α)) (entry : String × α) :
    ofList (entries ++ [entry]) = set entry.1 entry.2 (ofList entries) := by
  rw [ofList, List.foldl_append]
  rfl

/-- What is found in a map that is put together from a list is the last value for the key. -/
theorem get_of_list_eq_find (entries : List (String × α)) (key : String) :
    (ofList entries).get? key = (entries.reverse.find? fun entry => entry.1 = key).map (·.2) := by
  induction entries using List.reverseRecOn with
  | nil => rfl
  | append_singleton rest entry ih =>
      rw [of_list_concat, List.reverse_append, List.reverse_singleton, List.singleton_append,
        List.find?_cons]
      by_cases h : entry.1 = key
      · subst h
        simp
      · have hkey : key ≠ entry.1 := fun heq => h heq.symm
        rw [get_set_of_ne hkey, ih]
        simp [h]

/-- What is found in two lists of entries one after the other is found in the second, or else in
the first. -/
theorem get_of_list_append (first second : List (String × α)) (key : String) :
    (ofList (first ++ second)).get? key =
      ((ofList second).get? key).or ((ofList first).get? key) := by
  rw [get_of_list_eq_find, get_of_list_eq_find, get_of_list_eq_find, List.reverse_append,
    List.find?_append]
  cases second.reverse.find? fun entry => entry.1 = key <;> rfl

/-- What is found for a key is the first entry for it. -/
theorem get_eq_filter (key : String) (entries : Entries α) :
    entries.get? key = ((entries.filter fun entry => entry.1 = key).head?).map (·.2) := by
  induction entries with
  | nil => rfl
  | cons entry rest ih =>
      rcases entry with ⟨k, v⟩
      by_cases h : k = key <;> simp [get?, h, ih]

/-- What is found is an entry. -/
theorem mem_of_get {entries : Entries α} (h : entries.get? key = some value) :
    (key, value) ∈ entries := by
  induction entries with
  | nil => cases h
  | cons entry rest ih =>
      rcases entry with ⟨k, v⟩
      unfold get? at h
      split at h
      · next heq =>
          cases h
          rw [heq]
          exact List.mem_cons_self
      · exact List.mem_cons_of_mem _ (ih h)

/-- Nothing is found for a key exactly when no entry is for it. -/
theorem get_eq_none_iff {entries : Entries α} :
    entries.get? key = none ↔ ∀ entry ∈ entries, entry.1 ≠ key := by
  induction entries with
  | nil => simp [get?]
  | cons entry rest ih =>
      rcases entry with ⟨k, v⟩
      by_cases h : k = key <;> simp [get?, h, ih]

/-! ## The order of the keys -/

/-- The keys are in increasing order, so that each of them occurs once. -/
def Ordered (entries : Entries α) : Prop := entries.Pairwise fun first second => first.1 < second.1

instance (entries : Entries α) : Decidable entries.Ordered :=
  inferInstanceAs (Decidable (List.Pairwise _ _))

/-- Of two different keys one comes before the other. -/
theorem key_lt_of_ne (hne : key ≠ other) (hlt : ¬ key < other) : other < key :=
  String.not_le.mp fun hle => hne (String.le_antisymm hle (String.not_lt.mp hlt))

/-- Storing a value adds no other entry. -/
theorem mem_set {entries : Entries α} {entry : String × α}
    (h : entry ∈ set key value entries) : entry = (key, value) ∨ entry ∈ entries := by
  induction entries with
  | nil => exact Or.inl (List.mem_singleton.mp h)
  | cons first rest ih =>
      rcases first with ⟨k, v⟩
      unfold set at h
      split at h
      · rcases List.mem_cons.mp h with h | h
        · exact Or.inl h
        · exact Or.inr (List.mem_cons_of_mem _ h)
      · split at h
        · rcases List.mem_cons.mp h with h | h
          · exact Or.inl h
          · exact Or.inr h
        · rcases List.mem_cons.mp h with h | h
          · exact Or.inr (h ▸ List.mem_cons_self)
          · rcases ih h with h | h
            · exact Or.inl h
            · exact Or.inr (List.mem_cons_of_mem _ h)

/-- Storing a value keeps the order. -/
theorem ordered_set {entries : Entries α} (h : entries.Ordered) (key : String) (value : α) :
    (set key value entries).Ordered := by
  induction entries with
  | nil => exact List.pairwise_singleton _ _
  | cons entry rest ih =>
      rcases entry with ⟨k, v⟩
      obtain ⟨hfirst, hrest⟩ := List.pairwise_cons.mp h
      unfold set
      split
      · next heq =>
          subst heq
          exact List.pairwise_cons.mpr ⟨hfirst, hrest⟩
      · next hne =>
          split
          · next hlt =>
              refine List.pairwise_cons.mpr ⟨fun entry hentry => ?_, h⟩
              rcases List.mem_cons.mp hentry with rfl | hentry
              · exact hlt
              · exact String.lt_trans hlt (hfirst entry hentry)
          · next hlt =>
              refine List.pairwise_cons.mpr ⟨fun entry hentry => ?_, ih hrest⟩
              rcases mem_set hentry with rfl | hentry
              · exact key_lt_of_ne hne hlt
              · exact hfirst entry hentry

/-- A map that is put together from a list has no other entries. -/
theorem mem_of_list {entries : List (String × α)} {entry : String × α}
    (h : entry ∈ ofList entries) : entry ∈ entries := by
  induction entries using List.reverseRecOn with
  | nil => exact h
  | append_singleton rest last ih =>
      rw [of_list_concat] at h
      rcases mem_set h with rfl | h
      · exact List.mem_append_right _ List.mem_cons_self
      · exact List.mem_append_left _ (ih h)

/-- A map that is put together from a list is in order. -/
theorem ordered_of_list (entries : List (String × α)) : Ordered (ofList entries) := by
  induction entries using List.reverseRecOn with
  | nil => exact List.Pairwise.nil
  | append_singleton rest last ih =>
      rw [of_list_concat]
      exact ordered_set ih last.1 last.2

/-- In order, each entry is found by its key. -/
theorem get_of_mem {entries : Entries α} (h : entries.Ordered) (hmem : (key, value) ∈ entries) :
    entries.get? key = some value := by
  induction entries with
  | nil => cases hmem
  | cons entry rest ih =>
      rcases entry with ⟨k, v⟩
      obtain ⟨hfirst, hrest⟩ := List.pairwise_cons.mp h
      rcases List.mem_cons.mp hmem with heq | hmem
      · cases heq
        exact if_pos rfl
      · have hne : k ≠ key := String.ne_of_lt (hfirst _ hmem)
        unfold get?
        rw [if_neg hne]
        exact ih hrest hmem

/-- Maps in order that hold the same for every key are the same. -/
theorem eq_of_get_eq {first second : Entries α} (hfirst : first.Ordered) (hsecond : second.Ordered)
    (h : ∀ key, first.get? key = second.get? key) : first = second := by
  have hmem {one two : Entries α} (hone : one.Ordered) (hget : ∀ key, one.get? key = two.get? key)
      (entry : String × α) (hentry : entry ∈ one) : entry ∈ two :=
    mem_of_get ((hget entry.1).symm.trans (get_of_mem hone hentry))
  have hnodup {entries : Entries α} (hentries : entries.Ordered) : entries.Nodup := by
    refine hentries.imp ?_
    rintro one two hlt rfl
    exact String.lt_irrefl _ hlt
  have hperm : first.Perm second := by
    refine (List.perm_ext_iff_of_nodup (hnodup hfirst) (hnodup hsecond)).mpr fun entry => ?_
    exact ⟨hmem hfirst h entry, hmem hsecond (fun key => (h key).symm) entry⟩
  refine List.Perm.eq_of_pairwise (fun one two _ _ hlt hgt => ?_) hfirst hsecond hperm
  exact absurd (String.lt_trans hlt hgt) (String.lt_irrefl _)

/-- A map that is put together from a list has an entry for each of its keys. -/
theorem exists_get_of_list {entries : List (String × α)} (h : (key, value) ∈ entries) :
    ∃ found, (ofList entries).get? key = some found := by
  have hfound : (entries.reverse.find? fun entry => entry.1 = key).isSome := by
    rw [List.find?_isSome]
    exact ⟨(key, value), List.mem_reverse.mpr h, decide_eq_true rfl⟩
  obtain ⟨entry, hentry⟩ := Option.isSome_iff_exists.mp hfound
  exact ⟨entry.2, by rw [get_of_list_eq_find, hentry]; rfl⟩

/-! ## Entries that are mapped one by one -/

variable {β : Type} {R : String → α → β → Prop} {entries : Entries α} {results : Entries β}

/-- The entries of two maps correspond, each to one under the same key. -/
def Matching (R : String → α → β → Prop) (entries : Entries α) (results : Entries β) : Prop :=
  List.Forall₂ (fun entry result => result.1 = entry.1 ∧ R entry.1 entry.2 result.2)
    entries results

/-- What is found for a key corresponds, and nothing is found where nothing was. -/
theorem Matching.get (h : Matching R entries results) (key : String) :
    (entries.get? key = none → results.get? key = none) ∧
      ∀ value, entries.get? key = some value →
        ∃ result, results.get? key = some result ∧ R key value result := by
  unfold Matching at h
  induction entries generalizing results with
  | nil =>
      cases h
      exact ⟨fun _ => rfl, fun _ hget => nomatch hget⟩
  | cons entry rest ih =>
      cases h with
      | cons hfirst hrest =>
          rename_i result others
          rcases entry with ⟨k, v⟩
          rcases result with ⟨l, w⟩
          obtain ⟨hkey, hR⟩ := hfirst
          cases hkey
          unfold get?
          by_cases hk : k = key
          · subst hk
            rw [if_pos rfl, if_pos rfl]
            refine ⟨fun hnone => (nomatch hnone), fun value hvalue => ⟨w, rfl, ?_⟩⟩
            cases hvalue
            exact hR
          · rw [if_neg hk, if_neg hk]
            exact ih hrest

/-- The keys stay in order. -/
theorem Matching.ordered (h : Matching R entries results) (hordered : entries.Ordered) :
    results.Ordered := by
  have hkeys : results.map Prod.fst = entries.map Prod.fst := by
    unfold Matching at h
    clear hordered
    induction h with
    | nil => rfl
    | cons hfirst _ ih => rw [List.map_cons, List.map_cons, hfirst.1, ih]
  have hpairs : (entries.map Prod.fst).Pairwise (· < ·) := List.pairwise_map.mpr hordered
  rw [← hkeys] at hpairs
  exact List.pairwise_map.mp hpairs

end Entries

namespace Json

variable {key : String} {object value : Json}

/-- Setting a field keeps an object an object, and nothing else becomes one. -/
@[simp] theorem is_object_set : (object.set key value).isObject = object.isObject := by
  cases object <;> rfl

/-- Every object is its fields. -/
theorem eq_obj_of_is_object (h : object.isObject = true) : ∃ fields, object = .obj fields := by
  cases object with
  | obj fields => exact ⟨fields, rfl⟩
  | _ => cases h

/-- A field that is set is found. -/
theorem get_set_self (h : object.isObject = true) :
    (object.set key value).get? key = some value := by
  obtain ⟨fields, rfl⟩ := eq_obj_of_is_object h
  exact Entries.get_set_self ..

/-- A path into an object starts at a field. -/
theorem at_cons_eq (h : object.isObject = true) (path : List String) :
    object.at? (key :: path) = (object.get? key).bind (at? path) := by
  obtain ⟨fields, rfl⟩ := eq_obj_of_is_object h
  rfl

end Json

end VirtualApi

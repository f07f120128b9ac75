import VirtualApi.Kind.Registry

/-!
# What a registry stands for

Every spelling of a registry stands for a kind that was registered: `lookup_mem` says so for a
registry that was built from nothing.
-/

namespace VirtualApi.Registry

variable {registry next : Registry} {kind : Kind} {kinds : List Kind} {name : String}

/-- Every spelling stands for a registered kind. -/
def Sound (registry : Registry) : Prop := ∀ entry ∈ registry.names, entry.2 ∈ registry.kinds

/-- A name that is added stands for the kind it is added for. -/
theorem mem_add_names {spellings : List String} {names : List (String × Kind)}
    {entry : String × Kind} (h : entry ∈ spellings.foldl (addName kind) names) :
    entry ∈ names ∨ entry.2 = kind := by
  induction spellings generalizing names with
  | nil => exact Or.inl h
  | cons spelling rest ih =>
      rcases ih h with hmem | hkind
      · unfold addName at hmem
        split at hmem
        · exact Or.inl hmem
        · rcases List.mem_append.mp hmem with hold | hnew
          · exact Or.inl hold
          · rw [List.mem_singleton.mp hnew]
            exact Or.inr rfl
      · exact Or.inr hkind

/-- A kind that is registered comes after the ones before, and its names stand for it. -/
theorem register_eq_ok (h : registry.register kind = .ok next) :
    next.kinds = registry.kinds ++ [kind] ∧ (registry.Sound → next.Sound) := by
  unfold register at h
  split at h
  · cases h
  · cases h
    refine ⟨rfl, fun hsound entry hentry => ?_⟩
    rcases mem_add_names hentry with hold | hnew
    · exact List.mem_append_left _ (hsound entry hold)
    · exact List.mem_append_right _ (List.mem_singleton.mpr hnew)

/-- Kinds that are registered one after the other come in their order, and their names stand for
them. -/
theorem foldlM_register_eq_ok (h : kinds.foldlM register registry = .ok next) :
    next.kinds = registry.kinds ++ kinds ∧ (registry.Sound → next.Sound) := by
  induction kinds generalizing registry with
  | nil =>
      cases h
      exact ⟨(List.append_nil _).symm, id⟩
  | cons kind rest ih =>
      rw [List.foldlM_cons] at h
      cases hfirst : registry.register kind with
      | error e =>
          rw [hfirst] at h
          cases h
      | ok middle =>
          rw [hfirst] at h
          obtain ⟨hkinds, hsound⟩ := register_eq_ok hfirst
          obtain ⟨hrest, hnext⟩ := ih h
          refine ⟨?_, fun h => hnext (hsound h)⟩
          rw [hrest, hkinds, List.append_assoc]
          rfl

/-- A name stands for a registered kind. -/
theorem lookup_mem (hsound : registry.Sound) (h : registry.lookup name = .ok kind) :
    kind ∈ registry.kinds := by
  unfold lookup at h
  split at h
  · next found hfound =>
      cases h
      obtain ⟨before, after, hnames, -⟩ := List.lookup_eq_some_iff.mp hfound
      exact hsound (Text.asciiLower name, kind) (by rw [hnames]; simp)
  · cases h

end VirtualApi.Registry

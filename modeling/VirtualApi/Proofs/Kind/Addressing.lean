import VirtualApi.Proofs.Kind.Registry
import VirtualApi.Proofs.Result

/-!
# The kinds that can be asked for

A spelling stands for the kind that was registered first among those that have it (`Indexed`); every
registration keeps this. The main theorem, `addressed_by_new_spelling`, says from it which kinds of
a registry are found by a name: those that brought a spelling of their own, while a kind that came
after others with all its spellings is found by none. `later_version_unaddressed` is such a kind.
-/

namespace VirtualApi.Registry

variable {registry next : Registry} {kind : Kind} {kinds before after : List Kind} {name : String}

/-- Every spelling stands for the first kind that has it, and no two kinds have the same text. -/
structure Indexed (registry : Registry) : Prop where
  first : ∀ spelling, registry.names.lookup spelling =
    registry.kinds.find? fun kind => kind.spellings.contains spelling
  distinct : registry.kinds.Pairwise fun earlier later => earlier.gvk.key ≠ later.gvk.key

/-! ## Registering -/

/-- A spelling that is added stands for its kind, unless it stood for one before. -/
theorem lookup_add_name (kind : Kind) (names : List (String × Kind)) (added spelling : String) :
    (addName kind names added).lookup spelling =
      (names.lookup spelling).or (if spelling = added then some kind else none) := by
  unfold addName
  cases hadded : names.lookup added with
  | some taken =>
      by_cases heq : spelling = added
      · subst heq
        simp [hadded]
      · simp [heq]
  | none =>
      by_cases heq : spelling = added
      · subst heq
        simp [hadded, List.lookup_append]
      · simp [heq, List.lookup_append, List.lookup_cons, beq_false_of_ne heq]

/-- Spellings that are added stand for their kind, unless they stood for one before. -/
theorem lookup_add_names (kind : Kind) (spellings : List String) (names : List (String × Kind))
    (spelling : String) :
    (spellings.foldl (addName kind) names).lookup spelling =
      (names.lookup spelling).or (if spellings.contains spelling then some kind else none) := by
  induction spellings generalizing names with
  | nil => simp
  | cons added rest ih =>
      rw [List.foldl_cons, ih, lookup_add_name, Option.or_assoc]
      by_cases heq : spelling = added <;> simp [heq]

/-- A kind is registered only when no registered kind has its text. -/
theorem key_ne_of_register (h : registry.register kind = .ok next) :
    ∀ earlier ∈ registry.kinds, earlier.gvk.key ≠ kind.gvk.key := by
  unfold register at h
  split at h
  · cases h
  · next hnew =>
      intro earlier hearlier heq
      exact hnew (List.any_eq_true.mpr ⟨earlier, hearlier, decide_eq_true heq⟩)

/-- Registering a kind keeps every spelling with the first kind that has it. -/
theorem register_indexed (h : registry.register kind = .ok next) (hindexed : registry.Indexed) :
    next.Indexed := by
  have hkey := key_ne_of_register h
  unfold register at h
  split at h
  · cases h
  · cases h
    refine ⟨fun spelling => ?_, ?_⟩
    · dsimp only
      rw [lookup_add_names, hindexed.first, List.find?_append, List.find?_singleton]
    · refine List.pairwise_append.mpr ⟨hindexed.distinct, List.pairwise_singleton .., ?_⟩
      intro earlier hearlier later hlater
      rw [List.mem_singleton.mp hlater]
      exact hkey earlier hearlier

/-- What every registration keeps is kept when kinds are registered one after the other. -/
theorem foldlM_register_keeps {P : Registry → Prop}
    (hstep : ∀ registry kind next, register registry kind = .ok next → P registry → P next)
    (h : kinds.foldlM register registry = .ok next) (hfirst : P registry) : P next := by
  induction kinds generalizing registry with
  | nil =>
      cases h
      exact hfirst
  | cons kind rest ih =>
      rw [List.foldlM_cons] at h
      obtain ⟨middle, hmiddle, hrest⟩ := result_bind_eq_ok_iff.mp h
      exact ih hrest (hstep registry kind middle hmiddle hfirst)

/-- A registry that was built from nothing is indexed by the first kinds. -/
theorem indexed_of_build (h : kinds.foldlM register {} = .ok registry) :
    registry.kinds = kinds ∧ registry.Indexed :=
  ⟨(foldlM_register_eq_ok h).1, foldlM_register_keeps (fun _ _ _ => register_indexed) h
    ⟨fun _ => rfl, List.Pairwise.nil⟩⟩

/-! ## Looking up -/

/-- A name finds the first kind that has it for a spelling, in letters of either case. -/
theorem Indexed.lookup_eq_ok_iff (h : registry.Indexed) :
    registry.lookup name = .ok kind ↔
      registry.kinds.find? (fun kind => kind.spellings.contains (Text.asciiLower name)) =
        some kind := by
  unfold lookup
  rw [h.first]
  split
  · next found heq =>
      rw [heq]
      exact ⟨fun hok => congrArg _ (Except.ok.inj hok),
        fun hsome => congrArg _ (Option.some.inj hsome)⟩
  · next heq =>
      rw [heq]
      exact ⟨fun hok => (nomatch hok), fun hsome => (nomatch hsome)⟩

/-- A kind is found by a spelling that no kind before it has. -/
theorem Indexed.lookup_of_new (h : registry.Indexed)
    (hkinds : registry.kinds = before ++ kind :: after)
    (hspelling : Text.asciiLower name ∈ kind.spellings)
    (hnew : ∀ earlier ∈ before, Text.asciiLower name ∉ earlier.spellings) :
    registry.lookup name = .ok kind := by
  rw [h.lookup_eq_ok_iff, List.find?_eq_some_iff_append]
  refine ⟨List.contains_iff_mem.mpr hspelling, before, after, hkinds, ?_⟩
  intro earlier hearlier
  simpa using hnew earlier hearlier

/-- A kind that is found by a name brought that spelling: no kind before it has it. -/
theorem Indexed.new_of_lookup (h : registry.Indexed)
    (hkinds : registry.kinds = before ++ kind :: after)
    (hlookup : registry.lookup name = .ok kind) :
    Text.asciiLower name ∈ kind.spellings ∧
      ∀ earlier ∈ before, Text.asciiLower name ∉ earlier.spellings := by
  have hdistinct := h.distinct
  rw [h.lookup_eq_ok_iff, hkinds, List.find?_append] at hlookup
  rw [hkinds, List.pairwise_append] at hdistinct
  obtain ⟨-, -, hdistinct⟩ := hdistinct
  rcases Option.or_eq_some_iff.mp hlookup with hearlier | ⟨hnone, hown⟩
  · -- the kind would be among those before it, whose texts differ from its own
    exact absurd rfl (hdistinct kind (List.mem_of_find?_eq_some hearlier) kind List.mem_cons_self)
  · have hhas : kind.spellings.contains (Text.asciiLower name) = true := by
      simpa using List.find?_some hown
    refine ⟨List.contains_iff_mem.mp hhas, fun earlier hearlier => ?_⟩
    simpa using List.find?_eq_none.mp hnone earlier hearlier

/-- A registry finds each kind by every spelling, in letters of either case, that no kind registered
before it has. A kind whose spellings all belong to kinds before it is found by no name, although it
is registered. So a kind that is spelled in lower-case letters can be asked for exactly when it
brought a spelling of its own. -/
theorem addressed_by_new_spelling (h : kinds.foldlM register {} = .ok registry) :
    registry.kinds = kinds ∧ ∀ before kind after, kinds = before ++ kind :: after →
      (∀ name, Text.asciiLower name ∈ kind.spellings →
        (∀ earlier ∈ before, Text.asciiLower name ∉ earlier.spellings) →
        registry.lookup name = .ok kind) ∧
      ((∀ spelling ∈ kind.spellings, ∃ earlier ∈ before, spelling ∈ earlier.spellings) →
        ∀ name, registry.lookup name ≠ .ok kind) ∧
      ((∀ spelling ∈ kind.spellings, Text.asciiLower spelling = spelling) →
        ((∃ name, registry.lookup name = .ok kind) ↔
          ∃ spelling ∈ kind.spellings, ∀ earlier ∈ before, spelling ∉ earlier.spellings)) := by
  obtain ⟨rfl, hindexed⟩ := indexed_of_build h
  refine ⟨rfl, fun before kind after hkinds => ⟨fun name => hindexed.lookup_of_new hkinds, ?_, ?_⟩⟩
  · intro htaken name hlookup
    obtain ⟨hspelling, hnew⟩ := hindexed.new_of_lookup hkinds hlookup
    obtain ⟨earlier, hearlier, hhas⟩ := htaken _ hspelling
    exact hnew earlier hearlier hhas
  · intro hlower
    constructor
    · rintro ⟨name, hlookup⟩
      exact ⟨_, hindexed.new_of_lookup hkinds hlookup⟩
    · rintro ⟨spelling, hspelling, hnew⟩
      have hsame := hlower spelling hspelling
      exact ⟨spelling, hindexed.lookup_of_new hkinds (by rwa [hsame]) (by rwa [hsame])⟩

/-! ## Two versions of a kind -/

/-- A kind of gadgets in a version. -/
def gadget (version : String) : Kind where
  gvk := ⟨"example.dev", version, "Gadget"⟩
  plural := "gadgets"
  backend := .lookup (.ofObjects [])

/-- Gadgets of another group, which share a short name. -/
def otherGadget : Kind where
  gvk := ⟨"other.dev", "v1", "Gadget"⟩
  plural := "gadgets"
  backend := .lookup (.ofObjects [])

/-- Gadgets of two groups are told apart by their full names. -/
theorem gadgets_addressed_by_group :
    ∃ registry, [gadget "v1", otherGadget].foldlM register {} = .ok registry ∧
      registry.lookup "Gadgets.Other.Dev" = .ok otherGadget := by
  refine ⟨_, rfl, ?_⟩
  exact ((addressed_by_new_spelling rfl).2 [gadget "v1"] otherGadget [] rfl).1 "Gadgets.Other.Dev"
    (by decide) (by decide)

/-- The second version of a kind is registered, and no name finds it: it has all its spellings in
common with the first. -/
theorem later_version_unaddressed :
    ∃ registry, [gadget "v1", gadget "v2"].foldlM register {} = .ok registry ∧
      gadget "v2" ∈ registry.kinds ∧ ∀ name, registry.lookup name ≠ .ok (gadget "v2") := by
  have hbuild : ∃ registry, [gadget "v1", gadget "v2"].foldlM register {} = .ok registry := ⟨_, rfl⟩
  obtain ⟨registry, hbuild⟩ := hbuild
  obtain ⟨hkinds, hindexed⟩ := indexed_of_build hbuild
  have hparted : registry.kinds = [gadget "v1"] ++ gadget "v2" :: [] := hkinds
  refine ⟨registry, hbuild, by simp [hkinds], fun name hlookup => ?_⟩
  obtain ⟨hspelling, hnew⟩ := hindexed.new_of_lookup hparted hlookup
  exact hnew _ List.mem_cons_self hspelling

end VirtualApi.Registry

import Mathlib.Data.List.Forall2

/-!
# Results one after the other

When a sequence of computations that may fail comes through. `result_bind_eq_ok_iff` says it for two
of them, `result_mapM_eq_ok_iff` for one on each item of a list. Where a list does not come through,
the first item that fails decides the error (`result_mapM_eq_error_iff`), also where the items have
parts of their own (`fails_first_flatMap_iff`).
-/

namespace VirtualApi

/-- Two results come one after the other exactly when each of them does. -/
theorem result_bind_eq_ok_iff {ε α β : Type} {result : Except ε α} {next : α → Except ε β} {b : β} :
    (result >>= next) = .ok b ↔ ∃ a, result = .ok a ∧ next a = .ok b := by
  cases result with
  | error e =>
      constructor
      · intro h
        cases h
      · rintro ⟨a, h, _⟩
        cases h
  | ok a =>
      constructor
      · intro h
        exact ⟨a, rfl, h⟩
      · rintro ⟨a', h, hnext⟩
        cases h
        exact hnext

/-- A computation on each item of a list comes through exactly when it does on every item. -/
theorem result_mapM_eq_ok_iff {ε α β : Type} {f : α → Except ε β} {items : List α}
    {results : List β} :
    items.mapM f = .ok results ↔ List.Forall₂ (fun a b => f a = .ok b) items results := by
  induction items generalizing results with
  | nil =>
      rw [List.mapM_nil, List.forall₂_nil_left_iff]
      exact ⟨fun h => (Except.ok.inj h).symm, fun h => congrArg Except.ok h.symm⟩
  | cons item rest ih =>
      rw [List.mapM_cons, result_bind_eq_ok_iff, List.forall₂_cons_left_iff]
      refine exists_congr fun first => ?_
      constructor
      · rintro ⟨hfirst, hothers⟩
        obtain ⟨others, hmap, heq⟩ := result_bind_eq_ok_iff.mp hothers
        exact ⟨others, hfirst, ih.mp hmap, (Except.ok.inj heq).symm⟩
      · rintro ⟨others, hfirst, hmap, rfl⟩
        exact ⟨hfirst, result_bind_eq_ok_iff.mpr ⟨others, ih.mpr hmap, rfl⟩⟩

/-- Of two lists that correspond item by item, each item of the second has one of the first. -/
theorem exists_of_mem_right {α β : Type} {R : α → β → Prop} {items : List α} {results : List β}
    (h : List.Forall₂ R items results) {b : β} (hb : b ∈ results) : ∃ a ∈ items, R a b := by
  induction h with
  | nil => cases hb
  | cons hfirst _ ih =>
      rcases List.mem_cons.mp hb with rfl | hb
      · exact ⟨_, List.mem_cons_self, hfirst⟩
      · obtain ⟨a, ha, hresult⟩ := ih hb
        exact ⟨a, List.mem_cons_of_mem _ ha, hresult⟩

/-- Of two lists that correspond item by item, each item of the first has one of the second. -/
theorem exists_of_mem_left {α β : Type} {R : α → β → Prop} {items : List α} {results : List β}
    (h : List.Forall₂ R items results) {a : α} (ha : a ∈ items) : ∃ b ∈ results, R a b :=
  exists_of_mem_right h.flip ha

/-- Every result of a computation on a list is that of one of its items. -/
theorem exists_of_mem_mapM {ε α β : Type} {f : α → Except ε β} {items : List α} {results : List β}
    (h : items.mapM f = .ok results) {b : β} (hb : b ∈ results) : ∃ a ∈ items, f a = .ok b :=
  exists_of_mem_right (result_mapM_eq_ok_iff.mp h) hb

/-- Of the items of a list, those that a condition selects have the results that a condition
selects, where the two conditions agree on each item and its result. -/
theorem result_mapM_filter {ε α β : Type} {f : α → Except ε β} {p : α → Bool} {q : β → Bool}
    {items : List α} {results : List β} (h : items.mapM f = .ok results)
    (hagree : ∀ a ∈ items, ∀ b, f a = .ok b → p a = q b) :
    (items.filter p).mapM f = .ok (results.filter q) := by
  rw [result_mapM_eq_ok_iff] at h ⊢
  induction h with
  | nil => exact .nil
  | @cons a b rest others hfirst _ ih =>
      have hrest := ih fun a ha => hagree a (List.mem_cons_of_mem _ ha)
      have hsame := hagree a List.mem_cons_self b hfirst
      cases hq : q b with
      | true =>
          rw [List.filter_cons_of_pos (hsame.trans hq), List.filter_cons_of_pos hq]
          exact .cons hfirst hrest
      | false =>
          rw [List.filter_cons_of_neg (by rw [hsame, hq]; exact Bool.false_ne_true),
            List.filter_cons_of_neg (by rw [hq]; exact Bool.false_ne_true)]
          exact hrest

/-- A computation that comes through on every item of a list does on the list. -/
theorem result_mapM_of_forall {ε α β : Type} {f : α → Except ε β} {items : List α}
    (h : ∀ a ∈ items, ∃ b, f a = .ok b) : ∃ results, items.mapM f = .ok results := by
  induction items with
  | nil => exact ⟨[], rfl⟩
  | cons item rest ih =>
      obtain ⟨first, hfirst⟩ := h item List.mem_cons_self
      obtain ⟨others, hothers⟩ := ih fun a ha => h a (List.mem_cons_of_mem _ ha)
      exact ⟨first :: others, result_mapM_eq_ok_iff.mpr
        (.cons hfirst (result_mapM_eq_ok_iff.mp hothers))⟩

/-- Steps that come through from wherever the ones before got come through one after the other. -/
theorem result_foldlM_of_forall {ε α β : Type} {f : β → α → Except ε β} {items : List α}
    (h : ∀ a ∈ items, ∀ state, ∃ next, f state a = .ok next) (state : β) :
    ∃ last, items.foldlM f state = .ok last := by
  induction items generalizing state with
  | nil => exact ⟨state, rfl⟩
  | cons item rest ih =>
      obtain ⟨next, hnext⟩ := h item List.mem_cons_self state
      obtain ⟨last, hlast⟩ := ih (fun a ha => h a (List.mem_cons_of_mem _ ha)) next
      rw [List.foldlM_cons]
      exact ⟨last, result_bind_eq_ok_iff.mpr ⟨next, hnext, hlast⟩⟩

/-- Of steps that come through one after the other, each does from where those before it got. -/
theorem exists_step_of_mem {ε α β : Type} {f : β → α → Except ε β} {items : List α}
    {state last : β} (h : items.foldlM f state = .ok last) {a : α} (ha : a ∈ items) :
    ∃ before after, f before a = .ok after := by
  induction items generalizing state with
  | nil => cases ha
  | cons item rest ih =>
      rw [List.foldlM_cons] at h
      obtain ⟨next, hnext, hrest⟩ := result_bind_eq_ok_iff.mp h
      rcases List.mem_cons.mp ha with rfl | ha
      · exact ⟨state, next, hnext⟩
      · exact ih hrest ha

/-- Of steps that do not come through one after the other, one fails with the error. -/
theorem exists_failed_step {ε α β : Type} {f : β → α → Except ε β} {items : List α}
    {state : β} {e : ε} (h : items.foldlM f state = .error e) :
    ∃ a ∈ items, ∃ before, f before a = .error e := by
  induction items generalizing state with
  | nil => cases h
  | cons item rest ih =>
      rw [List.foldlM_cons] at h
      cases hstep : f state item with
      | error e' =>
          rw [hstep] at h
          cases h
          exact ⟨item, List.mem_cons_self, state, hstep⟩
      | ok next =>
          rw [hstep] at h
          obtain ⟨a, ha, before, hfails⟩ := ih h
          exact ⟨a, List.mem_cons_of_mem _ ha, before, hfails⟩

/-! ## The first failure -/

/-- One item of the list fails with this error, and all items before it come through. -/
def FailsFirst {ε α β : Type} (f : α → Except ε β) (items : List α) (e : ε) : Prop :=
  ∃ before item after, items = before ++ item :: after ∧
    (∀ a ∈ before, ∃ b, f a = .ok b) ∧ f item = .error e

section FailsFirst

variable {ε α β : Type} {f : α → Except ε β} {items : List α} {e : ε}

/-- Two results one after the other fail with the error of the first one that does. -/
theorem result_bind_eq_error_iff {result : Except ε α} {next : α → Except ε β} :
    (result >>= next) = .error e ↔ result = .error e ∨ ∃ a, result = .ok a ∧ next a = .error e := by
  cases result with
  | error e' =>
      constructor
      · intro h
        cases h
        exact Or.inl rfl
      · intro h
        rcases h with h | ⟨a, h, -⟩
        · cases h
          rfl
        · cases h
  | ok a =>
      constructor
      · intro h
        exact Or.inr ⟨a, rfl, h⟩
      · intro h
        rcases h with h | ⟨a', h, hnext⟩
        · cases h
        · cases h
          exact hnext

/-- What is made of a result does not fail. -/
theorem result_bind_pure_eq_error_iff {result : Except ε α} {g : α → β} :
    (result >>= fun a => pure (g a)) = .error e ↔ result = .error e := by
  rw [result_bind_eq_error_iff]
  exact or_iff_left fun ⟨_, _, h⟩ => nomatch h

/-- No item of an empty list fails. -/
theorem not_fails_first_nil : ¬ FailsFirst f [] e := by
  intro ⟨before, item, after, h, _⟩
  cases before <;> cases h

/-- The first failure is that of the first item, or comes later when this one comes through. -/
theorem fails_first_cons_iff {item : α} {rest : List α} :
    FailsFirst f (item :: rest) e ↔
      f item = .error e ∨ (∃ b, f item = .ok b) ∧ FailsFirst f rest e := by
  constructor
  · intro ⟨before, failing, after, hitems, hbefore, hfails⟩
    cases before with
    | nil =>
        cases hitems
        exact Or.inl hfails
    | cons first before =>
        cases hitems
        obtain ⟨hfirst, hbefore⟩ := List.forall_mem_cons.mp hbefore
        exact Or.inr ⟨hfirst, before, failing, after, rfl, hbefore, hfails⟩
  · intro h
    rcases h with hfails | ⟨hfirst, before, failing, after, rfl, hbefore, hfails⟩
    · exact ⟨[], item, rest, rfl, nofun, hfails⟩
    · exact ⟨item :: before, failing, after, rfl,
        List.forall_mem_cons.mpr ⟨hfirst, hbefore⟩, hfails⟩

/-- The first failure in two lists is that in the first one, or that in the second one when all of
the first one come through. -/
theorem fails_first_append_iff {first second : List α} :
    FailsFirst f (first ++ second) e ↔
      FailsFirst f first e ∨ (∀ a ∈ first, ∃ b, f a = .ok b) ∧ FailsFirst f second e := by
  induction first with
  | nil => simp [not_fails_first_nil]
  | cons item rest ih =>
      rw [List.cons_append, fails_first_cons_iff, fails_first_cons_iff, ih, List.forall_mem_cons,
        and_or_left, or_assoc, and_assoc]

/-- A computation on each item of a list fails with the error of the first item that fails. -/
theorem result_mapM_eq_error_iff : items.mapM f = .error e ↔ FailsFirst f items e := by
  induction items with
  | nil => exact ⟨nofun, fun h => absurd h not_fails_first_nil⟩
  | cons item rest ih =>
      rw [List.mapM_cons, result_bind_eq_error_iff, fails_first_cons_iff]
      simp only [result_bind_pure_eq_error_iff, ih, exists_and_right]

/-- Some item is the first to fail exactly when not all come through. -/
theorem exists_fails_first_iff :
    (∃ e, FailsFirst f items e) ↔ ¬ ∀ a ∈ items, ∃ b, f a = .ok b := by
  simp only [← result_mapM_eq_error_iff]
  cases hresult : items.mapM f with
  | error e =>
      refine ⟨fun _ hall => ?_, fun _ => ⟨e, rfl⟩⟩
      obtain ⟨results, hresults⟩ := result_mapM_of_forall hall
      rw [hresult] at hresults
      cases hresults
  | ok results =>
      refine ⟨nofun, fun hnot => absurd (fun a ha => ?_) hnot⟩
      obtain ⟨b, -, hb⟩ := exists_of_mem_left (result_mapM_eq_ok_iff.mp hresult) ha
      exact ⟨b, hb⟩

/-- What fails as the first of some items comes through when all of them do. -/
theorem comes_through_iff {δ : Type} {result : Except ε δ}
    (h : ∀ e, result = .error e ↔ FailsFirst f items e) :
    (∃ d, result = .ok d) ↔ ∀ a ∈ items, ∃ b, f a = .ok b := by
  rw [← Classical.not_not (a := ∀ a ∈ items, ∃ b, f a = .ok b), ← exists_fails_first_iff]
  simp only [← h]
  cases result with
  | error e => exact ⟨nofun, fun hnot => absurd ⟨e, rfl⟩ hnot⟩
  | ok d => exact ⟨fun _ => nofun, fun _ => ⟨d, rfl⟩⟩

/-- Where each item fails as the first of its parts to fail, a list of items fails as the first of
all their parts. -/
theorem fails_first_flatMap_iff {γ δ : Type} {g : γ → Except ε δ} {parts : γ → List α}
    (h : ∀ item e, g item = .error e ↔ FailsFirst f (parts item) e) {items : List γ} :
    FailsFirst g items e ↔ FailsFirst f (items.flatMap parts) e := by
  induction items with
  | nil => exact iff_of_false not_fails_first_nil not_fails_first_nil
  | cons item rest ih =>
      rw [List.flatMap_cons, fails_first_cons_iff, fails_first_append_iff, h,
        comes_through_iff (h item)]
      exact or_congr_right (and_congr_right fun _ => ih)

end FailsFirst

end VirtualApi

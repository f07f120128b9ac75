import Mathlib.Tactic.MkIffOfInductiveProp
import VirtualApi.Label.Structured
import VirtualApi.Proofs.Label.Value
import VirtualApi.Proofs.Result

/-!
# What a structured selector selects

Which labels a structured selector selects is said by its own parts (`LabelSelector.Selects`), and
so is which selectors are in order (`LabelSelector.Valid`). Those that are in order are the ones
that become requirements (`valid_iff`), and the requirements hold of the labels that are selected
(`holds_iff_selects`).
-/

namespace VirtualApi

open Label

namespace LabelExpression

/-! ## One expression -/

/-- The values of an expression. -/
def given (e : LabelExpression) : List String := e.values.getD []

/-- The operator of each name. -/
inductive Names : String → Operator → Prop where
  | isIn : Names "In" .isIn
  | notIn : Names "NotIn" .notIn
  | exists : Names "Exists" .exists
  | doesNotExist : Names "DoesNotExist" .doesNotExist

/-- The key and the values can be those of a label, and the operator takes as many. -/
structure Valid (e : LabelExpression) : Prop where
  key : validKey e.key.toList = true
  values : ∀ value ∈ e.given, validValue value.toList = true
  takes : ∃ operator, Names e.operator operator ∧ operator.takes e.given.length = true

/-- What each operator says of the label with the key. -/
@[mk_iff]
inductive Selects (e : LabelExpression) (labels : Labels) : Prop where
  | isIn {value : String} (hname : e.operator = "In") (hlabel : labels.get? e.key = some value)
      (hvalue : value ∈ e.given)
  | notIn (hname : e.operator = "NotIn")
      (hlabel : ∀ value, labels.get? e.key = some value → value ∉ e.given)
  | exists {value : String} (hname : e.operator = "Exists")
      (hlabel : labels.get? e.key = some value)
  | doesNotExist (hname : e.operator = "DoesNotExist") (hlabel : labels.get? e.key = none)

variable {e : LabelExpression} {r : Requirement} {labels : Labels}

instance : Decidable (e.Selects labels) :=
  decidable_of_iff
    ((e.operator = "In" ∧ ∃ value ∈ labels.get? e.key, value ∈ e.given) ∨
      (e.operator = "NotIn" ∧ ∀ value ∈ labels.get? e.key, value ∉ e.given) ∨
      (e.operator = "Exists" ∧ labels.get? e.key ≠ none) ∨
      (e.operator = "DoesNotExist" ∧ labels.get? e.key = none))
    (by simp [selects_iff, Option.ne_none_iff_exists'])

/-- The operator of a name is found by it. -/
theorem operator_eq_some_iff {name : String} {operator : Operator} :
    operator? name = some operator ↔ Names name operator := by
  constructor
  · intro h
    obtain ⟨before, after, hlist, -⟩ := List.lookup_eq_some_iff.mp h
    have hmem : (name, operator) ∈ [("In", Operator.isIn), ("NotIn", .notIn), ("Exists", .exists),
        ("DoesNotExist", .doesNotExist)] :=
      hlist ▸ List.mem_append_right _ List.mem_cons_self
    simp only [List.mem_cons, Prod.mk.injEq, List.not_mem_nil, or_false] at hmem
    rcases hmem with ⟨rfl, rfl⟩ | ⟨rfl, rfl⟩ | ⟨rfl, rfl⟩ | ⟨rfl, rfl⟩
    · exact .isIn
    · exact .notIn
    · exact .exists
    · exact .doesNotExist
  · rintro (_ | _ | _ | _) <;> rfl

/-- An expression becomes a requirement with its own operator, or none. -/
theorem to_requirement_eq_ok_iff :
    e.toRequirement = .ok r ↔
      ∃ operator, Names e.operator operator ∧ r = ⟨e.key, operator, e.given⟩ ∧ r.Valid := by
  unfold toRequirement
  cases hoperator : operator? e.operator with
  | none =>
      refine ⟨nofun, fun ⟨operator, hnames, _⟩ => ?_⟩
      rw [operator_eq_some_iff.mpr hnames] at hoperator
      cases hoperator
  | some operator =>
      have hnames := operator_eq_some_iff.mp hoperator
      refine make_eq_ok_iff.trans ⟨fun h => ⟨operator, hnames, h⟩, ?_⟩
      rintro ⟨other, hother, h⟩
      rw [operator_eq_some_iff.mpr hother] at hoperator
      cases hoperator
      exact h

/-- The expressions that become requirements are those that are in order. -/
theorem valid_iff : e.Valid ↔ ∃ r, e.toRequirement = .ok r := by
  simp only [to_requirement_eq_ok_iff]
  constructor
  · rintro ⟨hkey, hvalues, operator, hnames, htakes⟩
    exact ⟨_, operator, hnames, rfl, hkey, hvalues, htakes⟩
  · rintro ⟨_, operator, hnames, rfl, hkey, hvalues, htakes⟩
    exact ⟨hkey, hvalues, operator, hnames, htakes⟩

/-- The requirement holds of the labels that the expression selects. -/
theorem holds_iff_selects (h : e.toRequirement = .ok r) :
    r.holds labels = true ↔ e.Selects labels := by
  obtain ⟨operator, hnames, rfl, -⟩ := to_requirement_eq_ok_iff.mp h
  generalize hname : e.operator = name at hnames
  -- the operator is the one that the name says, so that one case is left for each name
  cases hnames <;>
    cases hlabel : labels.get? e.key <;>
    simp [Requirement.holds, selects_iff, hname, hlabel]

end LabelExpression

namespace LabelSelector

/-! ## The whole selector -/

/-- The labels that have to have a value. -/
def pairs (s : LabelSelector) : List (String × String) := s.matchLabels.getD []

/-- The expressions. -/
def expressions (s : LabelSelector) : List LabelExpression := s.matchExpressions.getD []

/-- Every part is in order. -/
structure Valid (s : LabelSelector) : Prop where
  pairs : ∀ pair ∈ s.pairs, validKey pair.1.toList = true ∧ validValue pair.2.toList = true
  expressions : ∀ e ∈ s.expressions, e.Valid

/-- The labels that have to have a value have it, and every expression selects them. -/
@[mk_iff]
structure Selects (s : LabelSelector) (labels : Labels) : Prop where
  pairs : ∀ pair ∈ s.pairs, labels.get? pair.1 = some pair.2
  expressions : ∀ e ∈ s.expressions, e.Selects labels

variable {s : LabelSelector} {selector : Selector} {labels : Labels}

instance : Decidable (s.Selects labels) := decidable_of_iff' _ (selects_iff s labels)

/-- A selector becomes the requirements of its parts, the labels first. -/
theorem to_selector_eq_ok_iff :
    s.toSelector = .ok selector ↔ ∃ first second,
      List.Forall₂ (fun pair r => Requirement.make pair.1 .equals [pair.2] = .ok r) s.pairs first ∧
        List.Forall₂ (fun e r => e.toRequirement = .ok r) s.expressions second ∧
        selector = ⟨first ++ second⟩ := by
  simp only [toSelector, result_bind_eq_ok_iff, result_mapM_eq_ok_iff]
  refine exists_congr fun first => ⟨?_, ?_⟩
  · rintro ⟨hfirst, second, hsecond, h⟩
    exact ⟨second, hfirst, hsecond, (Except.ok.inj h).symm⟩
  · rintro ⟨second, hfirst, hsecond, rfl⟩
    exact ⟨hfirst, second, hsecond, rfl⟩

/-- The selectors that become requirements are those that are in order. -/
theorem valid_iff : s.Valid ↔ ∃ selector, s.toSelector = .ok selector := by
  constructor
  · rintro ⟨hpairs, hexpressions⟩
    obtain ⟨first, hfirst⟩ := result_mapM_of_forall
      (f := fun pair : String × String => Requirement.make pair.1 .equals [pair.2])
      fun pair hpair => ⟨_, make_eq_ok_iff.mpr
        ⟨rfl, (hpairs pair hpair).1, by simpa using (hpairs pair hpair).2, rfl⟩⟩
    obtain ⟨second, hsecond⟩ := result_mapM_of_forall fun e he =>
      LabelExpression.valid_iff.mp (hexpressions e he)
    exact ⟨⟨first ++ second⟩, to_selector_eq_ok_iff.mpr ⟨first, second,
      result_mapM_eq_ok_iff.mp hfirst, result_mapM_eq_ok_iff.mp hsecond, rfl⟩⟩
  · rintro ⟨selector, h⟩
    obtain ⟨first, second, hfirst, hsecond, -⟩ := to_selector_eq_ok_iff.mp h
    constructor
    · intro pair hpair
      obtain ⟨r, -, hr⟩ := exists_of_mem_left hfirst hpair
      obtain ⟨rfl, hkey, hvalues, -⟩ := make_eq_ok_iff.mp hr
      exact ⟨hkey, hvalues _ List.mem_cons_self⟩
    · intro e he
      obtain ⟨r, -, hr⟩ := exists_of_mem_left hsecond he
      exact LabelExpression.valid_iff.mpr ⟨r, hr⟩

/-- Where parts and requirements correspond, all requirements hold of what all parts select. -/
theorem all_hold_iff {α : Type} {make : α → Except SelectorError Requirement}
    {selects : α → Prop} {parts : List α} {requirements : List Requirement}
    (hmake : List.Forall₂ (fun part r => make part = .ok r) parts requirements)
    (hpart : ∀ part r, make part = .ok r → (r.holds labels = true ↔ selects part)) :
    (∀ r ∈ requirements, r.holds labels = true) ↔ ∀ part ∈ parts, selects part := by
  induction hmake with
  | nil => simp
  | cons hfirst _ ih => simp [hpart _ _ hfirst, ih]

/-- The requirements hold of the labels that the selector selects. -/
theorem holds_iff_selects (h : s.toSelector = .ok selector) :
    selector.holds labels = true ↔ s.Selects labels := by
  obtain ⟨first, second, hfirst, hsecond, rfl⟩ := to_selector_eq_ok_iff.mp h
  have hpairs : (∀ r ∈ first, r.holds labels = true) ↔
      ∀ pair ∈ s.pairs, labels.get? pair.1 = some pair.2 := by
    refine all_hold_iff hfirst fun pair r hr => ?_
    obtain ⟨rfl, -⟩ := make_eq_ok_iff.mp hr
    exact holds_equals_iff
  have hexpressions : (∀ r ∈ second, r.holds labels = true) ↔
      ∀ e ∈ s.expressions, e.Selects labels :=
    all_hold_iff hsecond fun e r => LabelExpression.holds_iff_selects
  simp only [Selector.holds, List.all_append, Bool.and_eq_true, List.all_eq_true, hpairs,
    hexpressions, selects_iff]

end LabelSelector

end VirtualApi

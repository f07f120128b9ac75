import VirtualApi.Access.Policy

/-!
# What a policy decides

The rules of a policy are read in order, and the first one that denies ends the reading.
`evaluate_decision` says what that comes to for the rules taken together: a rule that denies wins,
then one that allows, and without either there is no opinion. Nothing of this depends on the order
of the rules, only the wording of the reason does.
-/

namespace VirtualApi.Policy

variable {a : Attributes} {rules : List PolicyRule}

/-- A rule of this effect applies. -/
def hasRule (effect : Effect) (a : Attributes) (rules : List PolicyRule) : Bool :=
  rules.any fun rule => rule.effect = effect && rule.appliesTo a

/-- The decision of rules taken together, where one before them may have allowed the request. -/
def combined (allowed : Bool) (a : Attributes) (rules : List PolicyRule) : Decision :=
  if hasRule .deny a rules then .deny
  else if allowed || hasRule .allow a rules then .allow else .noOpinion

/-- A rule of an effect applies when one is among the rules that does. -/
theorem has_rule_iff {effect : Effect} :
    hasRule effect a rules = true ↔
      ∃ rule ∈ rules, rule.effect = effect ∧ rule.appliesTo a = true := by
  simp [hasRule]

/-- A rule either denies or allows, so that no rule applies when none of either effect does. -/
theorem has_rule_none_iff :
    hasRule .deny a rules = false ∧ hasRule .allow a rules = false ↔
      ∀ rule ∈ rules, rule.appliesTo a = false := by
  simp only [hasRule, List.any_eq_false, Bool.and_eq_true, decide_eq_true_eq, not_and,
    Bool.not_eq_true]
  constructor
  · rintro ⟨hdeny, hallow⟩ rule hrule
    cases heffect : rule.effect with
    | deny => exact hdeny rule hrule heffect
    | allow => exact hallow rule hrule heffect
  · intro h
    exact ⟨fun rule hrule _ => h rule hrule, fun rule hrule _ => h rule hrule⟩

/-- Reading the rules in order comes to their combined decision. -/
theorem evaluate_from_decision (a : Attributes) (number : Nat) (allowedBy : Option Nat)
    (rules : List PolicyRule) :
    (evaluateFrom a number allowedBy rules).decision = combined allowedBy.isSome a rules := by
  induction rules generalizing number allowedBy with
  | nil => cases allowedBy <;> rfl
  | cons rule rules ih =>
      cases happlies : rule.appliesTo a with
      | false => simp [evaluateFrom, combined, hasRule, happlies, ih]
      | true =>
          cases heffect : rule.effect with
          | deny =>
              simp [evaluateFrom, combined, hasRule, happlies, heffect, Verdict.deny]
          | allow => simp [evaluateFrom, combined, hasRule, happlies, heffect, ih]

/-- Reading rules meets no error. -/
theorem evaluate_from_error (a : Attributes) (number : Nat) (allowedBy : Option Nat)
    (rules : List PolicyRule) : (evaluateFrom a number allowedBy rules).error = none := by
  induction rules generalizing number allowedBy with
  | nil => cases allowedBy <;> rfl
  | cons rule rules ih =>
      simp only [evaluateFrom]
      split
      · split
        · rfl
        · exact ih ..
      · exact ih ..

/-- A superuser is allowed everything; for everyone else the rules decide together. -/
theorem evaluate_decision (policy : Policy) (a : Attributes) :
    (policy.evaluate a).decision =
      if superuserGroup ∈ a.user.groups then .allow else combined false a policy.rules := by
  unfold evaluate
  by_cases h : superuserGroup ∈ a.user.groups
  · simp [h, Verdict.allow]
  · simp [h, evaluate_from_decision]

/-- A policy is evaluated without an error. -/
theorem evaluate_error (policy : Policy) (a : Attributes) : (policy.evaluate a).error = none := by
  unfold evaluate
  split
  · rfl
  · exact evaluate_from_error ..

/-- A request is allowed when its caller is a superuser, or when a rule allows it and none denies
it. -/
theorem evaluate_allow_iff {policy : Policy} :
    (policy.evaluate a).decision = .allow ↔
      superuserGroup ∈ a.user.groups ∨
        hasRule .deny a policy.rules = false ∧ hasRule .allow a policy.rules = true := by
  rw [evaluate_decision, combined]
  by_cases hsuper : superuserGroup ∈ a.user.groups
  · simp [hsuper]
  · cases hasRule .deny a policy.rules <;> cases hasRule .allow a policy.rules <;> simp [hsuper]

/-- There is no opinion on a request exactly when its caller is no superuser and no rule
applies. -/
theorem evaluate_no_opinion_iff {policy : Policy} :
    (policy.evaluate a).decision = .noOpinion ↔
      superuserGroup ∉ a.user.groups ∧ ∀ rule ∈ policy.rules, rule.appliesTo a = false := by
  rw [evaluate_decision, combined, ← has_rule_none_iff]
  by_cases hsuper : superuserGroup ∈ a.user.groups
  · simp [hsuper]
  · cases hasRule .deny a policy.rules <;> cases hasRule .allow a policy.rules <;> simp [hsuper]

/-- The same rules in another order have the same rule of each effect. -/
theorem has_rule_perm {effect : Effect} {others : List PolicyRule} (h : others.Perm rules) :
    hasRule effect a others = hasRule effect a rules := by
  rw [Bool.eq_iff_iff, has_rule_iff, has_rule_iff]
  simp only [h.mem_iff]

/-- The decision does not depend on the order of the rules. -/
theorem evaluate_decision_perm {policy other : Policy} (h : other.rules.Perm policy.rules) :
    (other.evaluate a).decision = (policy.evaluate a).decision := by
  simp only [evaluate_decision, combined, has_rule_perm h]

end VirtualApi.Policy

import VirtualApi.Proofs.Access.Policy

/-!
# Rules with wildcards

An entry in one of the lists of a rule is replaced by `*`. `Widens` says that whatever a rule
matches, list by list, another one matches too; then the other applies wherever the first does. The
main theorem, `widened_rule_applies`, says that a star in place of an entry widens every list but
one: the names of a rule are compared as they are, so that there a star stands for itself.
-/

namespace VirtualApi.PolicyRule

/-- The lists of a rule. -/
inductive Part where
  | users
  | groups
  | verbs
  | apiGroups
  | resources
  | resourceNames
  | nonResourceURLs
deriving DecidableEq, Repr

/-- The entries of a list. -/
def entries (rule : PolicyRule) : Part → List String
  | .users => rule.users
  | .groups => rule.groups
  | .verbs => rule.verbs
  | .apiGroups => rule.apiGroups
  | .resources => rule.resources
  | .resourceNames => rule.resourceNames
  | .nonResourceURLs => rule.nonResourceURLs

/-- The rule with other entries in a list. -/
def withEntries (rule : PolicyRule) (entries : List String) : Part → PolicyRule
  | .users => { rule with users := entries }
  | .groups => { rule with groups := entries }
  | .verbs => { rule with verbs := entries }
  | .apiGroups => { rule with apiGroups := entries }
  | .resources => { rule with resources := entries }
  | .resourceNames => { rule with resourceNames := entries }
  | .nonResourceURLs => { rule with nonResourceURLs := entries }

/-- The rule with a star in place of an entry. -/
def widen (rule : PolicyRule) (part : Part) (index : Nat) : PolicyRule :=
  rule.withEntries ((rule.entries part).set index "*") part

variable {rule wide : PolicyRule} {a : Attributes} {part : Part}

/-! ## What a rule matches -/

/-- The rule lists a name, or any name. -/
def ListsName (rule : PolicyRule) (name : String) : Prop :=
  rule.resourceNames = [] ∨ name ∈ rule.resourceNames

/-- Whatever the lists of the one rule match, those of the other match too. -/
structure Widens (wide rule : PolicyRule) : Prop where
  users : ∀ name, names rule.users name = true → names wide.users name = true
  groups : ∀ group, names rule.groups group = true → names wide.groups group = true
  verbs : ∀ verb, names rule.verbs verb = true → names wide.verbs verb = true
  apiGroups : ∀ group, names rule.apiGroups group = true → names wide.apiGroups group = true
  resources : ∀ resource subresource,
    rule.resources.any (resourceMatches · resource subresource) = true →
      wide.resources.any (resourceMatches · resource subresource) = true
  resourceNames : ∀ name, rule.ListsName name → wide.ListsName name
  paths : ∀ path, rule.nonResourceURLs.any (pathMatches · path) = true →
    wide.nonResourceURLs.any (pathMatches · path) = true

/-- A rule applies to a request when it matches the caller and the verb, and what the request is
for. -/
theorem applies_to_iff :
    rule.appliesTo a = true ↔
      (names rule.users a.user.name = true ∨
        ∃ group ∈ a.user.groups, names rule.groups group = true) ∧
      names rule.verbs a.verb = true ∧
      (a.isResourceRequest = true → names rule.apiGroups a.group = true ∧
        rule.resources.any (resourceMatches · a.resource a.subresource) = true ∧
        rule.ListsName a.name) ∧
      (a.isResourceRequest = false → rule.nonResourceURLs.any (pathMatches · a.path) = true) := by
  unfold appliesTo matchesUser matchesResource ListsName
  cases a.isResourceRequest <;> simp [and_assoc]

/-- A rule that matches no less applies wherever the other does. -/
theorem Widens.applies_to (h : wide.Widens rule) (happlies : rule.appliesTo a = true) :
    wide.appliesTo a = true := by
  rw [applies_to_iff] at happlies ⊢
  obtain ⟨huser, hverb, hresource, hpath⟩ := happlies
  refine ⟨?_, h.verbs _ hverb, fun hrequest => ?_, fun hrequest => h.paths _ (hpath hrequest)⟩
  · rcases huser with hname | ⟨group, hgroup, hnames⟩
    · exact .inl (h.users _ hname)
    · exact .inr ⟨group, hgroup, h.groups _ hnames⟩
  · obtain ⟨hgroup, hmatches, hlists⟩ := hresource hrequest
    exact ⟨h.apiGroups _ hgroup, h.resources _ _ hmatches, h.resourceNames _ hlists⟩

/-! ## A star in place of an entry -/

/-- Where a star matches, a list still matches with a star in place of an entry. -/
theorem any_set_star {p : String → Bool} {list : List String} (hstar : p "*" = true)
    (h : list.any p = true) (index : Nat) : (list.set index "*").any p = true := by
  obtain ⟨entry, hentry, hp⟩ := List.any_eq_true.mp h
  obtain ⟨position, hposition, rfl⟩ := List.mem_iff_getElem.mp hentry
  rw [List.any_eq_true]
  by_cases heq : index = position
  · subst heq
    exact ⟨"*", List.mem_set hposition _, hstar⟩
  · have hkept : (list.set index "*")[position]? = some list[position] := by
      rw [List.getElem?_set_ne heq, List.getElem?_eq_getElem hposition]
    exact ⟨list[position], List.mem_of_getElem? hkept, hp⟩

/-- A star names everything. -/
theorem names_set_star {list : List String} {text : String} (h : names list text = true)
    (index : Nat) : names (list.set index "*") text = true :=
  any_set_star (by simp) h index

/-- A star matches every path: it is the beginning of all. -/
theorem path_matches_star (path : String) : pathMatches "*" path = true := rfl

/-- With a star in place of an entry a rule matches no less, unless the entry is a name. -/
theorem widen_widens (rule : PolicyRule) (hpart : part ≠ .resourceNames) (index : Nat) :
    (rule.widen part index).Widens rule := by
  have hsame : rule.Widens rule := ⟨fun _ h => h, fun _ h => h, fun _ h => h, fun _ h => h,
    fun _ _ h => h, fun _ h => h, fun _ h => h⟩
  cases part with
  | users => exact { hsame with users := fun _ h => names_set_star h index }
  | groups => exact { hsame with groups := fun _ h => names_set_star h index }
  | verbs => exact { hsame with verbs := fun _ h => names_set_star h index }
  | apiGroups => exact { hsame with apiGroups := fun _ h => names_set_star h index }
  | resources => exact { hsame with resources := fun _ _ h => any_set_star rfl h index }
  | resourceNames => exact absurd rfl hpart
  | nonResourceURLs =>
      exact { hsame with paths := fun path h => any_set_star (path_matches_star path) h index }

/-- With a star in place of a name a rule that applied still does exactly when it lists the name all
the same, or is asked for a path. -/
theorem applies_to_widen_name_iff (happlies : rule.appliesTo a = true) (index : Nat) :
    (rule.widen .resourceNames index).appliesTo a = true ↔
      (a.isResourceRequest = true → (rule.widen .resourceNames index).ListsName a.name) := by
  rw [applies_to_iff] at happlies ⊢
  obtain ⟨huser, hverb, hresource, hpath⟩ := happlies
  constructor
  · rintro ⟨-, -, hwide, -⟩ hrequest
    exact (hwide hrequest).2.2
  · intro hlists
    refine ⟨huser, hverb, fun hrequest => ?_, hpath⟩
    obtain ⟨hgroup, hmatches, -⟩ := hresource hrequest
    exact ⟨hgroup, hmatches, hlists hrequest⟩

/-- A policy with a rule that denies a request denies it to everyone but superusers. -/
theorem denies_of_rule {policy : Policy} (hrule : rule ∈ policy.rules)
    (heffect : rule.effect = .deny) (happlies : rule.appliesTo a = true)
    (huser : Policy.superuserGroup ∉ a.user.groups) : (policy.evaluate a).decision = .deny := by
  have hdeny : Policy.hasRule .deny a policy.rules = true :=
    Policy.has_rule_iff.mpr ⟨rule, hrule, heffect, happlies⟩
  rw [Policy.evaluate_decision, if_neg huser, Policy.combined, if_pos hdeny]

/-- A star in place of a part changes no effect. -/
theorem widen_effect (rule : PolicyRule) (part : Part) (index : Nat) :
    (rule.widen part index).effect = rule.effect := by
  cases part <;> rfl

/-- A rule that applies to a request still does with a star in place of any entry of its users,
groups, verbs, API groups, resources or paths, and a rule that denies still denies the request in
any policy. A star in place of a name is a name like others: the rule then applies to a resource
only under the names that it still lists. -/
theorem widened_rule_applies (h : rule.appliesTo a = true) (part : Part) (index : Nat) :
    (part ≠ .resourceNames →
      (rule.widen part index).appliesTo a = true ∧
        ∀ policy : Policy, rule.widen part index ∈ policy.rules → rule.effect = .deny →
          Policy.superuserGroup ∉ a.user.groups → (policy.evaluate a).decision = .deny) ∧
    ((rule.widen .resourceNames index).appliesTo a = true ↔
      (a.isResourceRequest = true → (rule.widen .resourceNames index).ListsName a.name)) := by
  refine ⟨fun hpart => ?_, applies_to_widen_name_iff h index⟩
  have hwide := (widen_widens rule hpart index).applies_to h
  refine ⟨hwide, fun policy hrule heffect huser => ?_⟩
  exact denies_of_rule hrule ((widen_effect rule part index).trans heffect) hwide huser

/-- A rule that keeps a caller from one secret. -/
def secretRule : PolicyRule where
  effect := .deny
  users := ["mallory"]
  verbs := ["get", "list"]
  apiGroups := [""]
  resources := ["pods/log", "secrets"]
  resourceNames := ["token"]

/-- A rule that lets everyone read everything. -/
def readerRule : PolicyRule where
  effect := .allow
  users := ["*"]
  verbs := ["get"]
  apiGroups := ["*"]
  resources := ["*"]

/-- The caller's request for the secret. -/
def secretRequest : Attributes where
  user := { name := "mallory", groups := ["devs"] }
  verb := "get"
  version := "v1"
  resource := "secrets"
  namespaceName := "shop"
  name := "token"

/-- The secret stays denied when the rule is widened to all resources. -/
theorem all_resources_denied :
    secretRule.appliesTo secretRequest = true ∧
      (Policy.evaluate ⟨[readerRule, secretRule.widen .resources 1]⟩ secretRequest).decision =
        .deny := by
  have happlies : secretRule.appliesTo secretRequest = true := by decide
  obtain ⟨-, hdeny⟩ := (widened_rule_applies happlies .resources 1).1 (by decide)
  exact ⟨happlies, hdeny _ (List.mem_cons_of_mem _ List.mem_cons_self) rfl (by decide)⟩

/-- A star in place of the name of the secret narrows the rule: it does not apply to the secret any
more, and a policy that denied the secret now allows it. -/
theorem star_for_name_narrows :
    secretRule.appliesTo secretRequest = true ∧
      (secretRule.entries .resourceNames)[0]? = some "token" ∧
      (secretRule.widen .resourceNames 0).appliesTo secretRequest = false ∧
      (Policy.evaluate ⟨[readerRule, secretRule]⟩ secretRequest).decision = .deny ∧
      (Policy.evaluate ⟨[readerRule, secretRule.widen .resourceNames 0]⟩ secretRequest).decision =
        .allow := by
  decide

end VirtualApi.PolicyRule

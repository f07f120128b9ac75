import VirtualApi.Access.Gate
import VirtualApi.Proofs.Access.Policy
import VirtualApi.Proofs.Request.Action

/-!
# The gate before two tiers

A policy decides first, and an access review is submitted only where the policy has no opinion. The
main theorem, `tiered_access_iff`, says for every policy and every way a review can end who passes
the gate, when a review is submitted and what it asks, and that the order of the rules plays no
part in it.
-/

namespace VirtualApi

namespace Reviewer

/-- What shows that a review was submitted. -/
def submission (reviewer : Reviewer) (review : AccessReview) : Event :=
  match reviewer with
  | .fixed .. => .reviewed review
  | .host _ => .sent "POST" reviewUri (some review.toJson)

/-- The milliseconds that an answer takes. -/
def latency : Reviewer → Nat
  | .fixed _ latency => latency
  | .host transport => (transport "POST" reviewUri).latency

/-- How a review ends that is not cut off. -/
def outcome : Reviewer → Except AccessError ReviewStatus
  | .fixed answer _ => answer
  | .host transport => statusOfReply (transport "POST" reviewUri)

/-- Reviews are submitted, not cut off. -/
theorem submission_ne_cut_off (reviewer : Reviewer) (review : AccessReview) (e : ApiError) :
    reviewer.submission review ≠ .cutOff e := by
  cases reviewer <;> simp [submission]

/-- A review is submitted, takes its time and ends. -/
theorem submit_eq (reviewer : Reviewer) (review : AccessReview) :
    reviewer.submit review =
      (do Call.emit (reviewer.submission review); Call.wait reviewer.latency;
          pure reviewer.outcome) := by
  cases reviewer with
  | fixed answer latency => rfl
  | host transport =>
      funext horizon w
      simp only [submit, Transport.send, submission, latency, outcome, Call.bind_apply,
        Call.emit_apply, Call.pure_apply]
      rcases Call.wait (transport "POST" reviewUri).latency horizon _ with ⟨_ | _, _⟩ <;> rfl

end Reviewer

namespace Authorizer

variable {ctx : RequestContext} {a : Attributes} {w : World}

/-- The second authorizer is asked only where the first has no opinion and met no error. -/
theorem authorize_tiered (first second : Authorizer) :
    authorize ctx a (.tiered first second) w =
      if (authorize ctx a first w).1.decision = .noOpinion ∧
          (authorize ctx a first w).1.error = none then
        authorize ctx a second (authorize ctx a first w).2
      else authorize ctx a first w := by
  show (if _ then authorize ctx a second else pure (authorize ctx a first w).1)
    (authorize ctx a first w).2 = _
  split <;> rfl

/-- A remote authorizer whose review ends in time gives the verdict of how it ends. -/
theorem authorize_remote_of_live {reviewer : Reviewer}
    (hlive : ctx.abort? (w.now + reviewer.latency) = none) :
    authorize ctx a (.remote reviewer) w =
      (verdictOfReview (.ok reviewer.outcome),
        { w with
          now := w.now + reviewer.latency
          trace := w.trace ++ [reviewer.submission (.ofAttributes a)] }) := by
  have hrun : ctx.run (reviewer.submit (.ofAttributes a)) w =
      (.ok reviewer.outcome,
        { w.emit (reviewer.submission (.ofAttributes a)) with
          now := w.now + reviewer.latency }) := by
    rw [Reviewer.submit_eq]
    exact RequestContext.run_of_ok
      (RequestContext.abort_eq_none_of_le (Nat.le_add_right _ _) hlive)
      (RequestContext.emit_wait_apply hlive)
  show (verdictOfReview (ctx.run (reviewer.submit (.ofAttributes a)) w).1,
    (ctx.run (reviewer.submit (.ofAttributes a)) w).2) = _
  rw [hrun]
  rfl

/-- A remote authorizer whose review is cut off has the error of the cut instead of an opinion. -/
theorem authorize_remote_of_cut {reviewer : Reviewer} (hlive : ctx.abort? w.now = none)
    (hcut : ctx.abort? (w.now + reviewer.latency) ≠ none) :
    ∃ cut, authorize ctx a (.remote reviewer) w =
      (.failed (.aborted (ctx.cutError cut)),
        { w with
          now := cut
          trace := w.trace ++
            [reviewer.submission (.ofAttributes a), .cutOff (ctx.cutError cut)] }) := by
  obtain ⟨cut, hrun⟩ := RequestContext.run_emit_wait_of_cut (w := w)
    (reviewer.submission (.ofAttributes a)) (pure reviewer.outcome) hlive hcut
  rw [← Reviewer.submit_eq] at hrun
  refine ⟨cut, ?_⟩
  show (verdictOfReview (ctx.run (reviewer.submit (.ofAttributes a)) w).1,
    (ctx.run (reviewer.submit (.ofAttributes a)) w).2) = _
  rw [hrun]
  rfl

/-- Where the policy has an opinion no one else is asked; where it has none, the second authorizer
is, in the same world. -/
theorem authorize_policy_first (policy : Policy) (second : Authorizer) :
    authorize ctx a (.tiered (.policy policy) second) w =
      if (policy.evaluate a).decision = .noOpinion then authorize ctx a second w
      else (policy.evaluate a, w) := by
  have hfirst : authorize ctx a (.policy policy) w = (policy.evaluate a, w) := rfl
  simp only [authorize_tiered, hfirst, Policy.evaluate_error, and_true]

/-- An answer that allows comes to a verdict that does, whatever else it says. -/
theorem of_status_allow_iff {status : ReviewStatus} :
    (Verdict.ofStatus status).decision = .allow ↔ status.allowed = true := by
  cases hallowed : status.allowed with
  | true => simp [Verdict.ofStatus, hallowed, Verdict.allow]
  | false =>
      have hnot : (Verdict.ofStatus status).decision ≠ .allow := by
        unfold Verdict.ofStatus
        rw [if_neg (by simp [hallowed])]
        split
        · simp [Verdict.deny]
        · split <;> simp [Verdict.failed, Verdict.noOpinion]
      simp [hnot]

/-- A review lets its caller pass exactly when it was answered and the answer allows it. -/
theorem verdict_of_review_allow_iff {outcome : ApiResult (Except AccessError ReviewStatus)} :
    (verdictOfReview outcome).decision = .allow ↔
      ∃ status, outcome = .ok (.ok status) ∧ status.allowed = true := by
  rcases outcome with _ | _ | status
  · simp [verdictOfReview, Verdict.failed]
  · simp [verdictOfReview, Verdict.failed]
  · simp [verdictOfReview, of_status_allow_iff]

end Authorizer

namespace Gate

/-- Only a verdict that allows passes the gate. -/
theorem pass_eq_ok_iff {user : String} {t : AccessTarget} {verdict : Verdict} :
    pass user t verdict = .ok () ↔ verdict.decision = .allow := by
  unfold pass
  rcases verdict with ⟨_ | _ | _, reason, _ | _ | _ | _ | _⟩ <;> simp

/-- The gate asks once and judges the verdict. -/
theorem check_access_apply (authorizer : Authorizer) (ctx : RequestContext) (t : AccessTarget)
    (w : World) :
    checkAccess authorizer ctx t w =
      (pass ctx.user.name t (authorizer.authorize ctx (.forTarget ctx.user t) w).1,
        (authorizer.authorize ctx (.forTarget ctx.user t) w).2) := rfl

/-- The wording of a refusal plays no part in its code. -/
theorem code_of_forbidden (message : String) :
    (Except.error (.forbidden message) : ApiResult Unit).mapError ApiError.code = .error 403 := rfl

/-- Two verdicts of one decision, of which neither met an error, end alike but for the wording. -/
theorem pass_code_eq {user : String} {t : AccessTarget} {first second : Verdict}
    (hdecision : first.decision = second.decision) (hfirst : first.error = none)
    (hsecond : second.error = none) :
    (pass user t first).mapError ApiError.code = (pass user t second).mapError ApiError.code := by
  rcases first with ⟨decision, reason, error⟩
  rcases second with ⟨decision', reason', error'⟩
  cases hdecision
  cases hfirst
  cases hsecond
  cases decision with
  | allow => rfl
  | deny => exact (code_of_forbidden _).trans (code_of_forbidden _).symm
  | noOpinion => rfl

/-- What the gate does before a policy with a reviewer behind it. -/
def tieredAccess (policy : Policy) (reviewer : Reviewer) : RequestContext → AccessTarget →
    World → ApiResult Unit × World :=
  checkAccess (.tiered (.policy policy) (.remote reviewer))

variable {policy : Policy} {reviewer : Reviewer} {ctx : RequestContext} {t : AccessTarget}
  {w : World}

/-- Where the policy has an opinion, it decides and nothing else happens. -/
theorem tiered_access_of_opinion
    (h : (policy.evaluate (.forTarget ctx.user t)).decision ≠ .noOpinion) :
    tieredAccess policy reviewer ctx t w =
      (pass ctx.user.name t (policy.evaluate (.forTarget ctx.user t)), w) := by
  simp only [tieredAccess, check_access_apply, Authorizer.authorize_policy_first, h, if_false]

/-- Where the policy has no opinion, the reviewer is asked. -/
theorem tiered_access_of_no_opinion
    (h : (policy.evaluate (.forTarget ctx.user t)).decision = .noOpinion) :
    tieredAccess policy reviewer ctx t w = checkAccess (.remote reviewer) ctx t w := by
  simp only [tieredAccess, check_access_apply, Authorizer.authorize_policy_first, h, if_true]

/-- The reviewer lets a caller pass whose review ends in time and allows the request. -/
theorem remote_access_ok_iff (hlive : ctx.abort? w.now = none) :
    (checkAccess (.remote reviewer) ctx t w).1 = .ok () ↔
      ctx.abort? (w.now + reviewer.latency) = none ∧
        ∃ status, reviewer.outcome = .ok status ∧ status.allowed = true := by
  rw [check_access_apply, pass_eq_ok_iff]
  by_cases hend : ctx.abort? (w.now + reviewer.latency) = none
  · rw [Authorizer.authorize_remote_of_live hend, Authorizer.verdict_of_review_allow_iff]
    simp [hend]
  · obtain ⟨cut, hcut⟩ := Authorizer.authorize_remote_of_cut
      (a := .forTarget ctx.user t) hlive hend
    rw [hcut]
    simp [hend, Verdict.failed]

/-- The reviewer is asked once, whether or not the answer comes in time. -/
theorem remote_access_trace (hlive : ctx.abort? w.now = none) :
    ∃ later, (checkAccess (.remote reviewer) ctx t w).2.trace =
        w.trace ++ reviewer.submission (.ofAttributes (.forTarget ctx.user t)) :: later ∧
      ∀ review, reviewer.submission review ∉ later := by
  rw [check_access_apply]
  by_cases hend : ctx.abort? (w.now + reviewer.latency) = none
  · rw [Authorizer.authorize_remote_of_live hend]
    exact ⟨[], rfl, fun _ => List.not_mem_nil⟩
  · obtain ⟨cut, hcut⟩ := Authorizer.authorize_remote_of_cut
      (a := .forTarget ctx.user t) hlive hend
    rw [hcut]
    refine ⟨[.cutOff (ctx.cutError cut)], rfl, fun review hmem => ?_⟩
    exact reviewer.submission_ne_cut_off review _ (List.mem_singleton.mp hmem)

/-- The order of the rules plays no part: the same happens, and the outcome is the same but for the
wording of an error. -/
theorem tiered_access_perm {other : Policy} (h : other.rules.Perm policy.rules) :
    (tieredAccess other reviewer ctx t w).2 = (tieredAccess policy reviewer ctx t w).2 ∧
      (tieredAccess other reviewer ctx t w).1.mapError ApiError.code =
        (tieredAccess policy reviewer ctx t w).1.mapError ApiError.code := by
  have hdecision := Policy.evaluate_decision_perm (a := .forTarget ctx.user t) h
  by_cases hopinion : (policy.evaluate (.forTarget ctx.user t)).decision = .noOpinion
  · rw [tiered_access_of_no_opinion hopinion,
      tiered_access_of_no_opinion (hdecision.trans hopinion)]
    exact ⟨rfl, rfl⟩
  · rw [tiered_access_of_opinion hopinion,
      tiered_access_of_opinion (fun h => hopinion (hdecision.symm.trans h))]
    exact ⟨rfl, pass_code_eq hdecision (Policy.evaluate_error _ _) (Policy.evaluate_error _ _)⟩

/-- The policy has no opinion on a target exactly when the caller is no superuser and no rule
applies. -/
theorem no_opinion_on_target_iff :
    (policy.evaluate (.forTarget ctx.user t)).decision = .noOpinion ↔
      "system:masters" ∉ ctx.user.groups ∧
        ∀ rule ∈ policy.rules, rule.appliesTo (.forTarget ctx.user t) = false :=
  Policy.evaluate_no_opinion_iff

/-- A caller passes as a superuser, or by the rules, or by the review where no rule applies. -/
theorem tiered_access_ok_iff (hlive : ctx.abort? w.now = none) :
    (tieredAccess policy reviewer ctx t w).1 = .ok () ↔
      "system:masters" ∈ ctx.user.groups ∨
      (Policy.hasRule .deny (.forTarget ctx.user t) policy.rules = false ∧
        Policy.hasRule .allow (.forTarget ctx.user t) policy.rules = true) ∨
      ((∀ rule ∈ policy.rules, rule.appliesTo (.forTarget ctx.user t) = false) ∧
        ctx.abort? (w.now + reviewer.latency) = none ∧
        ∃ status, reviewer.outcome = .ok status ∧ status.allowed = true) := by
  by_cases hopinion : (policy.evaluate (.forTarget ctx.user t)).decision = .noOpinion
  · -- No rule applies, so that neither of the first two cases can hold.
    obtain ⟨huser, hrules⟩ := no_opinion_on_target_iff.mp hopinion
    have hnone := Policy.has_rule_none_iff.mpr hrules
    rw [tiered_access_of_no_opinion hopinion, remote_access_ok_iff hlive]
    simp only [huser, hnone, false_or, Bool.false_eq_true, and_false]
    exact ⟨fun hend => ⟨hrules, hend⟩, fun h => h.2⟩
  · have hallow : (policy.evaluate (.forTarget ctx.user t)).decision = .allow ↔
        "system:masters" ∈ ctx.user.groups ∨
          Policy.hasRule .deny (.forTarget ctx.user t) policy.rules = false ∧
            Policy.hasRule .allow (.forTarget ctx.user t) policy.rules = true :=
      Policy.evaluate_allow_iff
    rw [tiered_access_of_opinion hopinion, pass_eq_ok_iff, hallow]
    -- Some rule applies or the caller is a superuser, so that the third case adds nothing.
    constructor
    · rintro (huser | hrules)
      · exact Or.inl huser
      · exact Or.inr (Or.inl hrules)
    · rintro (huser | hrules | ⟨hrules, -⟩)
      · exact Or.inl huser
      · exact Or.inr hrules
      · refine Or.inl ?_
        by_cases huser : "system:masters" ∈ ctx.user.groups
        · exact huser
        · exact absurd (no_opinion_on_target_iff.mpr ⟨huser, hrules⟩) hopinion

/-- For a request that still runs, the gate before a policy and a reviewer lets a caller pass
exactly when the caller is a superuser, or no rule that denies and some rule that allows applies,
or no rule applies and the review ends in time with an answer that allows. A review is submitted
exactly where the caller is no superuser and no rule applies, once, and asks for the caller and the
target in full; everywhere else nothing happens. The order of the rules changes none of this. -/
theorem tiered_access_iff (policy : Policy) (reviewer : Reviewer) (ctx : RequestContext)
    (t : AccessTarget) (w : World) (hlive : ctx.abort? w.now = none) :
    ((tieredAccess policy reviewer ctx t w).1 = .ok () ↔
      "system:masters" ∈ ctx.user.groups ∨
      ((¬ ∃ rule ∈ policy.rules, rule.effect = .deny ∧
          rule.appliesTo (.forTarget ctx.user t) = true) ∧
        ∃ rule ∈ policy.rules, rule.effect = .allow ∧
          rule.appliesTo (.forTarget ctx.user t) = true) ∨
      ((∀ rule ∈ policy.rules, rule.appliesTo (.forTarget ctx.user t) = false) ∧
        ctx.abort? (w.now + reviewer.latency) = none ∧
        ∃ status, reviewer.outcome = .ok status ∧ status.allowed = true)) ∧
    ("system:masters" ∉ ctx.user.groups ∧
        (∀ rule ∈ policy.rules, rule.appliesTo (.forTarget ctx.user t) = false) →
      ∃ later, (tieredAccess policy reviewer ctx t w).2.trace =
          w.trace ++ reviewer.submission {
            user := nonEmpty? ctx.user.name
            uid := nonEmpty? ctx.user.uid
            groups := ctx.user.groups
            extra := ctx.user.extra
            subject := .resource {
              namespaceName := nonEmpty? t.namespaceName
              verb := nonEmpty? t.verb
              group := some t.group
              version := nonEmpty? t.version
              resource := nonEmpty? t.resource
              subresource := nonEmpty? t.subresource
              name := nonEmpty? t.name } } :: later ∧
        ∀ review, reviewer.submission review ∉ later) ∧
    (¬ ("system:masters" ∉ ctx.user.groups ∧
        ∀ rule ∈ policy.rules, rule.appliesTo (.forTarget ctx.user t) = false) →
      (tieredAccess policy reviewer ctx t w).2 = w) ∧
    ∀ other : Policy, other.rules.Perm policy.rules →
      (tieredAccess other reviewer ctx t w).2 = (tieredAccess policy reviewer ctx t w).2 ∧
        (tieredAccess other reviewer ctx t w).1.mapError ApiError.code =
          (tieredAccess policy reviewer ctx t w).1.mapError ApiError.code := by
  refine ⟨?_, ?_, ?_, fun other hperm => tiered_access_perm hperm⟩
  · rw [← Policy.has_rule_iff, ← Policy.has_rule_iff, Bool.not_eq_true]
    exact tiered_access_ok_iff hlive
  · intro hsilent
    rw [tiered_access_of_no_opinion (no_opinion_on_target_iff.mpr hsilent)]
    exact remote_access_trace hlive
  · intro hopinion
    rw [tiered_access_of_opinion fun hsilent => hopinion (no_opinion_on_target_iff.mp hsilent)]

/-- Operators may do everything with deployments, and eve may do nothing at all. -/
def deploymentPolicy : Policy where
  rules := [
    { effect := .allow, groups := ["operators"], verbs := ["*"], apiGroups := ["apps"],
      resources := ["deployments"] },
    { effect := .deny, users := ["eve"], verbs := ["*"], apiGroups := ["*"], resources := ["*"] }]

/-- A request of a user, which is cut off after 10 milliseconds. -/
def requestOf (user : UserInfo) : RequestContext := { user, deadline := some 10 }

/-- Someone wants to create a deployment. -/
def creation : AccessTarget :=
  { verb := "create", group := "apps", version := "v1", resource := "deployments" }

/-- An operator passes by the rule that allows, though the reviewer would refuse, and eve is refused
by the rule that denies, though she is an operator and the reviewer would allow; neither is
reviewed. Ada is named by no rule and passes with a review that ends before the deadline. -/
theorem rules_decide_before_review :
    (∀ user, (requestOf user).abort? 0 = none) ∧
    tieredAccess deploymentPolicy (.fixed (.ok { allowed := false }) 5)
      (requestOf { name := "bob", groups := ["operators"] }) creation {} = (.ok (), {}) ∧
    ((tieredAccess deploymentPolicy (.fixed (.ok { allowed := true }) 5)
        (requestOf { name := "eve", groups := ["operators"] }) creation {}).1 ≠ .ok () ∧
      (tieredAccess deploymentPolicy (.fixed (.ok { allowed := true }) 5)
        (requestOf { name := "eve", groups := ["operators"] }) creation {}).2 = {}) ∧
    (tieredAccess deploymentPolicy (.fixed (.ok { allowed := true }) 5)
        (requestOf { name := "ada" }) creation {}).1 = .ok () ∧
      ∃ review later, (tieredAccess deploymentPolicy (.fixed (.ok { allowed := true }) 5)
        (requestOf { name := "ada" }) creation {}).2.trace = .reviewed review :: later := by
  have hlive (user : UserInfo) : (requestOf user).abort? 0 = none := rfl
  have haccess (allowed : Bool) (user : UserInfo) :=
    tiered_access_iff deploymentPolicy (.fixed (.ok { allowed }) 5) (requestOf user) creation {}
      (hlive user)
  refine ⟨hlive, ?_, ?_, ?_⟩
  · obtain ⟨hpass, -, hsilent, -⟩ := haccess false { name := "bob", groups := ["operators"] }
    refine Prod.ext (hpass.mpr (Or.inr (Or.inl ⟨?_, ?_⟩))) (hsilent ?_) <;> decide
  · obtain ⟨hpass, -, hsilent, -⟩ := haccess true { name := "eve", groups := ["operators"] }
    refine ⟨fun hok => ?_, hsilent (by decide)⟩
    rcases hpass.mp hok with hsuperuser | ⟨hdenied, -⟩ | ⟨hnone, -⟩
    · exact absurd hsuperuser (by decide)
    · exact hdenied (by decide)
    · exact absurd hnone (by decide)
  · obtain ⟨hpass, hreviewed, -⟩ := haccess true { name := "ada" }
    refine ⟨hpass.mpr (Or.inr (Or.inr ⟨by decide, by decide, _, rfl, rfl⟩)), ?_⟩
    obtain ⟨later, htrace, -⟩ := hreviewed (by decide)
    exact ⟨_, later, htrace⟩

end Gate

end VirtualApi

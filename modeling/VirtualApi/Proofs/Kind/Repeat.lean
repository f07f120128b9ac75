import VirtualApi.Kind.Standard
import VirtualApi.Proofs.Access.Tiers
import VirtualApi.Proofs.Chart.Cutoff
import VirtualApi.Proofs.Cluster.Memory
import VirtualApi.Proofs.Request.Repeat

/-!
# Computations on a memory cluster answer again

A memory cluster that takes no time answers every question in the same way as long as the request
runs, and a chart that was found is kept. So whatever is computed from the two is computed again.
An authorizer comes to the same verdict again when there is time for its reviews.
-/

namespace VirtualApi

/-! ## Questions to the cluster -/

namespace MemoryCluster

variable {α : Type} {memory : MemoryCluster} {ctx : RequestContext}

/-- A cluster that takes no time answers a request that runs, and no other. -/
theorem answer_at_once (h : memory.latency = 0) (question : ClusterQuestion) (result : ApiResult α)
    (w : World) :
    memory.answer ctx question result w =
      match ctx.abort? w.now with
      | none => (result, memory.answered question w)
      | some e => (.error e, w.emit (.cutOff e)) := by
  cases hlive : ctx.abort? w.now with
  | none => exact answer_of_live (by rw [h]; exact hlive)
  | some e => exact RequestContext.run_of_abort hlive

/-- Asking a question forgets no chart. -/
theorem answer_keeps (h : memory.latency = 0) (question : ClusterQuestion) (result : ApiResult α)
    (w : World) : w.Keeps (memory.answer ctx question result w).2 := by
  rw [answer_at_once h]
  cases ctx.abort? w.now <;> exact .of_charts_eq rfl

/-- A question that is asked again is answered in the same way. -/
theorem answer_repeats (h : memory.latency = 0) (question : ClusterQuestion)
    (result : ApiResult α) : (memory.answer ctx question result).Repeats ctx where
  keeps := answer_keeps h question result
  again {w final later a} hrun _ hlive := by
    have hresult : result = .ok a := (answer_eq_ok_iff.mp hrun).2.1
    refine ⟨memory.answered question later, ?_, by simp [answered, h]⟩
    rw [answer_at_once h, hlive, hresult]

/-- So is one whose errors may be skipped, as long as those of a cut are not. -/
theorem answer_or_none_repeats {skips : ApiError → Prop} [DecidablePred skips]
    (hskips : ∀ e, IsCut e → ¬skips e) (h : memory.latency = 0) (question : ClusterQuestion)
    (result : ApiResult α) :
    (Action.orNone skips (memory.answer ctx question result)).Repeats ctx where
  keeps w := by
    have hkeeps : w.Keeps (memory.answer ctx question result w).2 :=
      answer_keeps h question result w
    unfold Action.orNone
    rcases hrun : memory.answer ctx question result w with ⟨_ | _, final⟩
    · rw [hrun] at hkeeps
      dsimp only
      split <;> exact hkeeps
    · rw [hrun] at hkeeps
      exact hkeeps
  again {w final later a} hrun _ hlive := by
    refine ⟨memory.answered question later, ?_, by simp [answered, h]⟩
    unfold Action.orNone at hrun ⊢
    rw [answer_at_once h] at hrun ⊢
    rw [hlive]
    cases hbefore : ctx.abort? w.now with
    | none =>
        rw [hbefore] at hrun
        cases result with
        | ok b => cases hrun; rfl
        | error e =>
            dsimp only at hrun ⊢
            split at hrun
            · next hskip => cases hrun; rw [if_pos hskip]
            · cases hrun
    | some e =>
        -- the error of a cut is not skipped, so there was no answer
        rw [hbefore] at hrun
        dsimp only at hrun
        rw [if_neg (hskips e (RequestContext.is_cut_of_abort hbefore))] at hrun
        cases hrun

end MemoryCluster

/-! ## Charts -/

namespace ChartRegistry

variable {registry : ChartRegistry} {ctx : RequestContext} {group kind : String}

/-- Keeping a chart forgets no other. -/
theorem keep_keeps (path : String) (chart : EditorChart) (w : World) :
    w.Keeps (keep path chart w).2 := by
  unfold keep
  cases hkept : kept? path w with
  | some first => exact .refl w
  | none =>
      intro other kept hother
      have hne : (other == path) = false := by
        refine beq_false_of_ne fun heq => ?_
        rw [heq, hkept] at hother
        cases hother
      simpa only [kept?, List.lookup_cons, hne] using hother

/-- A chart that was kept is found. -/
theorem kept_keep (path : String) (chart : EditorChart) (w : World) :
    kept? path (keep path chart w).2 = some (keep path chart w).1 := by
  unfold keep
  cases hkept : kept? path w with
  | some first => exact hkept
  | none => simp [kept?]

/-- A chart that is found once is found again, as it is kept. -/
theorem chart_for_repeats (registry : ChartRegistry) (group kind : String) :
    (registry.chartFor group kind).Repeats ctx where
  keeps w := by
    unfold chartFor
    dsimp only
    cases hkept : kept? (chartPath group kind) w with
    | some chart => exact .refl w
    | none =>
        rcases registry.fetch w.files group kind with ⟨_ | chart, files⟩
        · exact .of_charts_eq rfl
        · have hfiles : w.Keeps { w with files := files } := .of_charts_eq rfl
          exact hfiles.trans (keep_keeps _ chart _)
  again {w final later chart} hrun hkeeps _ := by
    have hkept : kept? (chartPath group kind) final = some chart := by
      unfold chartFor at hrun
      dsimp only at hrun
      cases hbefore : kept? (chartPath group kind) w with
      | some first =>
          rw [hbefore] at hrun
          cases hrun
          exact hbefore
      | none =>
          rw [hbefore] at hrun
          rcases hfetch : registry.fetch w.files group kind with ⟨_ | found, files⟩
          · rw [hfetch] at hrun
            cases hrun
          · rw [hfetch] at hrun
            cases hrun
            exact kept_keep _ found _
    refine ⟨later, ?_, rfl⟩
    simp only [chartFor, hkeeps _ _ hkept]

end ChartRegistry

/-! ## Computations -/

section Computations

variable {memory : MemoryCluster} {ctx : RequestContext}

namespace ChartEditor

/-- The objects of a component are loaded again. -/
theorem load_component_repeats (h : memory.latency = 0) (ns : Option String) (selector : Selector)
    (gvk : GroupVersionKind) :
    (loadComponent (.memory memory) ctx ns selector gvk).Repeats ctx := by
  have hresource : (componentResource? (.memory memory) ctx gvk).Repeats ctx := by
    rw [component_resource_eq]
    refine memory.answer_or_none_repeats (fun e hcut hcode => ?_) h _ _
    have := hcut.code_ge
    omega
  refine .bind hresource fun served => ?_
  cases served with
  | none => exact .pure _
  | some resource => exact .bind (memory.answer_repeats h _ _) fun _ => .pure _

/-- The objects of several components are loaded again. -/
theorem load_components_repeats (h : memory.latency = 0) (ns : Option String)
    (selector : Selector) (components : List GroupVersionKind) :
    (loadComponents (.memory memory) ctx ns selector components).Repeats ctx := by
  induction components with
  | nil => exact .pure _
  | cons gvk rest ih =>
      exact .bind (load_component_repeats h ns selector gvk) fun _ => .bind ih fun _ => .pure _

/-- The objects behind a chart are loaded again. -/
theorem load_repeats (h : memory.latency = 0) (registry : ChartRegistry) (model : EditedModel) :
    (load registry (.memory memory) ctx model).Repeats ctx := by
  refine .bind (registry.chart_for_repeats _ _) fun chart => ?_
  refine .bind (memory.answer_repeats h _ _) fun resource => ?_
  refine .bind (memory.answer_repeats h _ _) fun primary => ?_
  refine .bind (.of_result _) fun requirement => ?_
  exact .bind (load_components_repeats h _ _ _) fun _ => .pure _

end ChartEditor

namespace Preset

/-- An object that need not exist is found, or not found, again. -/
theorem get_object_repeats (h : memory.latency = 0) (resource : ResourceId) (ns name : String) :
    (getObject? (.memory memory) ctx resource ns name).Repeats ctx := by
  rw [get_object_eq]
  exact memory.answer_or_none_repeats (fun e hcut => hcut.not_not_found) h _ _

/-- A preset is found again by its name. -/
theorem by_name_repeats (h : memory.latency = 0) (ns : Option String) (name : String) :
    (byName (.memory memory) ctx ns name).Repeats ctx := by
  have hnamespace : (inNamespace? (.memory memory) ctx name ns).Repeats ctx := by
    refine .bind (memory.answer_repeats h _ _) fun served => ?_
    split
    · exact get_object_repeats h _ _ _
    · exact .pure _
  have hcluster : (inCluster (.memory memory) ctx name).Repeats ctx := by
    refine .bind (memory.answer_repeats h _ _) fun served => ?_
    cases served with
    | some resource => exact memory.answer_repeats h _ _
    | none => exact .throw _
  refine .bind hnamespace fun found => ?_
  cases found with
  | some object => exact .pure _
  | none => exact .bind hcluster fun _ => .pure _

/-- Presets are found again by their labels. -/
theorem by_selector_repeats (h : memory.latency = 0) (ns : Option String) (selector : Selector) :
    (bySelector (.memory memory) ctx ns selector).Repeats ctx := by
  have hselected (resource : ResourceId) (ns : Option String) :
      (selected (.memory memory) ctx resource ns selector).Repeats ctx :=
    .bind (memory.answer_repeats h _ _) fun _ => .pure _
  have hcluster : (selectedInCluster (.memory memory) ctx selector).Repeats ctx := by
    refine .bind (memory.answer_repeats h _ _) fun served => ?_
    cases served with
    | some resource => exact hselected _ _
    | none => exact .pure _
  have hnamespace : (selectedInNamespace (.memory memory) ctx selector ns).Repeats ctx := by
    refine .bind (memory.answer_repeats h _ _) fun served => ?_
    split
    · exact hselected _ _
    · exact .pure _
  exact .bind hcluster fun _ => .bind hnamespace fun _ => .pure _

/-- The presets that are asked for are found again. -/
theorem load_repeats (h : memory.latency = 0) (query : PresetQuery) :
    (load (.memory memory) ctx query).Repeats ctx := by
  unfold load
  dsimp only
  split
  · exact by_name_repeats h _ _
  · exact .bind (.of_result _) fun selector => by_selector_repeats h _ selector

end Preset

namespace Calculation

/-- The resource of a manifest is found again. -/
theorem resolve_repeats (h : memory.latency = 0) (manifest : Json) :
    (resolve (.memory memory) ctx manifest).Repeats ctx := by
  unfold resolve
  split
  · exact .throw _
  · split
    · exact .throw _
    · exact .map_error (memory.answer_repeats h _ _)

end Calculation

/-- Objects are rendered again. -/
theorem render_objects_repeats (h : memory.latency = 0) (request : RenderingRequest) :
    (renderObjects (.memory memory) ctx request).Repeats ctx := by
  refine .bind (memory.answer_repeats h _ _) fun resource => ?_
  dsimp only
  split
  · exact memory.answer_repeats h _ _
  · split
    · exact .throw _
    · exact .bind (memory.answer_repeats h _ _) fun _ => .pure _

end Computations

/-! ## The gate -/

namespace Authorizer

variable {ctx : RequestContext} {a : Attributes} {w later : World}

/-- The milliseconds that an authorizer takes at most. -/
def longest : Authorizer → Nat
  | .policy _ => 0
  | .custom _ latency _ => latency
  | .remote reviewer => reviewer.latency
  | .tiered first second => first.longest + second.longest

/-- A review ends in time, or the verdict carries the error of a cut. -/
theorem authorize_remote_cases (reviewer : Reviewer) (w : World) :
    ctx.abort? (w.now + reviewer.latency) = none ∨
      ∃ e final, authorize ctx a (.remote reviewer) w = (.failed (.aborted e), final) ∧
        final.charts = w.charts := by
  by_cases hend : ctx.abort? (w.now + reviewer.latency) = none
  · exact Or.inl hend
  · refine Or.inr ?_
    cases hlive : ctx.abort? w.now with
    | none =>
        obtain ⟨cut, hcut⟩ := authorize_remote_of_cut (a := a) hlive hend
        exact ⟨_, _, hcut, rfl⟩
    | some e =>
        refine ⟨e, w.emit (.cutOff e), ?_, rfl⟩
        show (verdictOfReview (ctx.run (reviewer.submit (.ofAttributes a)) w).1,
          (ctx.run (reviewer.submit (.ofAttributes a)) w).2) = _
        rw [RequestContext.run_of_abort hlive]
        rfl

/-- An authorizer keeps all charts. -/
theorem authorize_charts (authorizer : Authorizer) (w : World) :
    (authorizer.authorize ctx a w).2.charts = w.charts := by
  induction authorizer generalizing w with
  | policy _ | custom _ _ _ => rfl
  | remote reviewer =>
      rcases authorize_remote_cases (a := a) reviewer w with hlive | ⟨e, final, hrun, hcharts⟩
      · rw [authorize_remote_of_live hlive]
      · rw [hrun]
        exact hcharts
  | tiered first second ihfirst ihsecond =>
      rw [authorize_tiered]
      split
      · rw [ihsecond, ihfirst]
      · exact ihfirst w

/-- A verdict that is no failure is given again when there is time for all reviews. -/
theorem authorize_again (authorizer : Authorizer)
    (hverdict : (authorizer.authorize ctx a w).1.decision ≠ .noOpinion ∨
      (authorizer.authorize ctx a w).1.error = none)
    (hlive : ctx.abort? (later.now + authorizer.longest) = none) :
    (authorizer.authorize ctx a later).1 = (authorizer.authorize ctx a w).1 ∧
      (authorizer.authorize ctx a later).2.now ≤ later.now + authorizer.longest := by
  induction authorizer generalizing w later with
  | policy _ | custom _ _ _ => exact ⟨rfl, Nat.le_refl _⟩
  | remote reviewer =>
      rcases authorize_remote_cases (a := a) reviewer w with hbefore | ⟨e, final, hrun, -⟩
      · rw [authorize_remote_of_live hbefore, authorize_remote_of_live hlive]
        exact ⟨rfl, Nat.le_refl _⟩
      · -- a review that is cut off is a failure
        rw [hrun] at hverdict
        simp [Verdict.failed] at hverdict
  | tiered first second ihfirst ihsecond =>
      have hlong : longest (.tiered first second) = first.longest + second.longest := rfl
      rw [hlong] at hlive ⊢
      have hliveFirst : ctx.abort? (later.now + first.longest) = none :=
        RequestContext.abort_eq_none_of_le (by omega) hlive
      by_cases hsilent : (authorize ctx a first w).1.decision = .noOpinion ∧
          (authorize ctx a first w).1.error = none
      · -- the first one is silent again, and the second one starts in time
        obtain ⟨hsame, hnow⟩ := ihfirst (Or.inr hsilent.2) hliveFirst
        have hliveSecond : ctx.abort?
            ((authorize ctx a first later).2.now + second.longest) = none :=
          RequestContext.abort_eq_none_of_le (by omega) hlive
        rw [authorize_tiered, if_pos hsilent] at hverdict
        rw [authorize_tiered, authorize_tiered, if_pos hsilent,
          if_pos (by rw [hsame]; exact hsilent)]
        obtain ⟨hsecond, hend⟩ := ihsecond hverdict hliveSecond
        exact ⟨hsecond, by omega⟩
      · rw [authorize_tiered, if_neg hsilent] at hverdict
        obtain ⟨hsame, hnow⟩ := ihfirst hverdict hliveFirst
        rw [authorize_tiered, authorize_tiered, if_neg hsilent,
          if_neg (by rw [hsame]; exact hsilent)]
        exact ⟨hsame, by omega⟩

end Authorizer

namespace Computation

variable {ctx : RequestContext} {target : Option AccessTarget} {authorizer : Option Authorizer}
  {w passed later : World}

/-- The milliseconds that letting a caller pass takes at most. -/
def gateTime (authorizer : Option Authorizer) : Nat := (authorizer.map Authorizer.longest).getD 0

/-- Letting a caller pass forgets no chart. -/
theorem let_pass_keeps (ctx : RequestContext) (target : Option AccessTarget)
    (authorizer : Option Authorizer) (w : World) : w.Keeps (letPass ctx target authorizer w).2 := by
  unfold letPass
  split
  · next t a => exact .of_charts_eq (a.authorize_charts w)
  · exact .refl w

/-- A caller who passed passes again when there is time for all reviews. -/
theorem let_pass_again (hpass : letPass ctx target authorizer w = (.ok (), passed))
    (hlive : ctx.abort? (later.now + gateTime authorizer) = none) :
    ∃ again, letPass ctx target authorizer later = (.ok (), again) ∧
      ctx.abort? again.now = none := by
  unfold letPass at hpass ⊢
  split at hpass
  · next t a =>
      rw [Gate.check_access_apply] at hpass
      have hallow : (a.authorize ctx (.forTarget ctx.user t) w).1.decision = .allow :=
        Gate.pass_eq_ok_iff.mp (congrArg Prod.fst hpass)
      obtain ⟨hsame, hnow⟩ := a.authorize_again (Or.inl (by rw [hallow]; decide)) hlive
      refine ⟨(a.authorize ctx (.forTarget ctx.user t) later).2, ?_, ?_⟩
      · rw [Gate.check_access_apply, hsame]
        exact congrArg (·, _) (Gate.pass_eq_ok_iff.mpr hallow)
      · exact RequestContext.abort_eq_none_of_le hnow hlive
  · exact ⟨later, rfl, RequestContext.abort_eq_none_of_le (Nat.le_add_right _ _) hlive⟩

end Computation

end VirtualApi

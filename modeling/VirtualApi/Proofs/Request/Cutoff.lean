import VirtualApi.Proofs.Request.Action

/-!
# What is cut off is reported

A call that is cut off, or refused because the request is over, leaves an event with the error it
is cut off with. `Action.StopsAtCut` says that an action ends there: nothing happens after such an
event, and the action fails with that very error. `EndsAtCut.stops_at_cut` derives it from
`Action.EndsAtCut`, which is kept by the combinators of actions.
-/

namespace VirtualApi

/-- No call is cut off among these events. -/
def Uncut (events : List Event) : Prop := ∀ e, Event.cutOff e ∉ events

namespace Uncut

/-- Nothing is cut off where nothing happens. -/
theorem nil : Uncut [] := fun _ => List.not_mem_nil

/-- One event that is no cut. -/
theorem singleton {event : Event} (h : ∀ e, event ≠ .cutOff e) : Uncut [event] := by
  intro e hmem
  exact h e (List.mem_singleton.mp hmem).symm

/-- Nothing is cut off in one part of the events, and nothing in the other. -/
theorem append {first second : List Event} (hfirst : Uncut first) (hsecond : Uncut second) :
    Uncut (first ++ second) := by
  intro e hmem
  rcases List.mem_append.mp hmem with h | h
  · exact hfirst e h
  · exact hsecond e h

end Uncut

/-- The errors that a call is cut off with. -/
def IsCut (e : ApiError) : Prop := e = .cancelled ∨ e = RequestContext.deadlineExceeded

/-- How a run from a world may end: no call was cut off, or the last thing that happened is that
one was, and the result reports it. -/
inductive Ending {ρ : Type} (reports : ApiError → ρ → Prop) (w : World) (run : ρ × World) :
    Prop where
  | whole (events : List Event) :
      run.2.trace = w.trace ++ events → Uncut events → Ending reports w run
  | cut (before : List Event) (e : ApiError) :
      run.2.trace = w.trace ++ (before ++ [.cutOff e]) → Uncut before → IsCut e →
      reports e run.1 → Ending reports w run

namespace Ending

variable {ρ σ : Type} {reports : ApiError → ρ → Prop} {w middle : World} {run : ρ × World}

/-- A run that changes no trace ends well. -/
theorem of_trace_eq (h : run.2.trace = w.trace) : Ending reports w run :=
  .whole [] (by rw [h, List.append_nil]) .nil

/-- A run ends in the same way when uncut events came before it. -/
theorem after {events : List Event} (hmiddle : middle.trace = w.trace ++ events)
    (hevents : Uncut events) (h : Ending reports middle run) : Ending reports w run := by
  cases h with
  | whole later htrace hlater =>
      refine .whole (events ++ later) ?_ (hevents.append hlater)
      rw [htrace, hmiddle, List.append_assoc]
  | cut before e htrace hbefore hcut hreports =>
      refine .cut (events ++ before) e ?_ (hevents.append hbefore) hcut hreports
      rw [htrace, hmiddle, List.append_assoc, List.append_assoc]

/-- A run with another result ends in the same way when the result still reports every cut. -/
theorem imp {reports' : ApiError → σ → Prop} {run' : σ × World} (h : Ending reports w run)
    (htrace : run'.2.trace = run.2.trace)
    (hreports : ∀ e, IsCut e → reports e run.1 → reports' e run'.1) :
    Ending reports' w run' := by
  cases h with
  | whole events hevents huncut => exact .whole events (htrace.trans hevents) huncut
  | cut before e hevents hbefore hcut hreport =>
      exact .cut before e (htrace.trans hevents) hbefore hcut (hreports e hcut hreport)

end Ending

/-! ## Calls -/

namespace Call

variable {α β : Type}

/-- A call does not cut itself off: that is left to the request it is made for. -/
def Quiet (call : Call α) : Prop :=
  ∀ horizon w, ∃ events, (call horizon w).2.trace = w.trace ++ events ∧ Uncut events

namespace Quiet

/-- A call that is already decided is quiet. -/
theorem pure (a : α) : Quiet (pure a : Call α) :=
  fun _ w => ⟨[], (List.append_nil w.trace).symm, .nil⟩

/-- An answer that is already known is quiet. -/
theorem answer (result : ApiResult α) : Quiet (Call.answer result) := by
  intro horizon w
  refine ⟨[], ?_, .nil⟩
  cases result <;> exact (List.append_nil w.trace).symm

/-- Waiting is quiet. -/
theorem wait (duration : Nat) : Quiet (Call.wait duration) := by
  intro horizon w
  refine ⟨[], ?_, .nil⟩
  unfold Call.wait
  split
  · exact (List.append_nil w.trace).symm
  · split <;> exact (List.append_nil w.trace).symm

/-- Noting something else than a cut is quiet. -/
theorem emit {event : Event} (h : ∀ e, event ≠ .cutOff e) : Quiet (Call.emit event) :=
  fun _ _ => ⟨[event], rfl, .singleton h⟩

/-- Two quiet calls one after the other are quiet. -/
theorem bind {call : Call α} {next : α → Call β} (hcall : Quiet call)
    (hnext : ∀ a, Quiet (next a)) : Quiet (call >>= next) := by
  intro horizon w
  obtain ⟨events, htrace, hevents⟩ := hcall horizon w
  rw [bind_apply]
  rcases hrun : call horizon w with ⟨_ | a, middle⟩
  · rw [hrun] at htrace
    exact ⟨events, htrace, hevents⟩
  · rw [hrun] at htrace
    obtain ⟨later, hlater, huncut⟩ := hnext a horizon middle
    refine ⟨events ++ later, ?_, hevents.append huncut⟩
    rw [hlater, htrace, List.append_assoc]

/-- Quiet calls for the items of a list are quiet together. -/
theorem mapM {f : α → Call β} (h : ∀ a, Quiet (f a)) (items : List α) : Quiet (items.mapM f) := by
  induction items with
  | nil => exact .pure []
  | cons item rest ih =>
      rw [List.mapM_cons]
      exact .bind (h item) fun _ => .bind ih fun _ => .pure _

end Quiet

end Call

/-! ## Actions -/

namespace Action

variable {α β : Type}

/-- However the action is run, if a call made for it is cut off, then nothing happens after that,
and the action fails with the error of the cut: that the request was given up, or that it ran out
of time. -/
def StopsAtCut (action : Action α) : Prop :=
  ∀ w, ∃ events, (action w).2.trace = w.trace ++ events ∧
    ∀ e, .cutOff e ∈ events →
      (e = .cancelled ∨ e = RequestContext.deadlineExceeded) ∧ (action w).1 = .error e ∧
        ∃ before, events = before ++ [.cutOff e] ∧ ∀ other, .cutOff other ∉ before

/-- Every run of the action ends with the first cut, and the action fails with its error. -/
def EndsAtCut (action : Action α) : Prop :=
  ∀ w, Ending (fun e result => result = .error e) w (action w)

/-- An action whose runs end with the first cut stops there. -/
theorem EndsAtCut.stops_at_cut {action : Action α} (h : EndsAtCut action) : StopsAtCut action := by
  intro w
  cases h w with
  | whole events htrace huncut => exact ⟨events, htrace, fun e hmem => absurd hmem (huncut e)⟩
  | cut before e htrace hbefore hcut hresult =>
      refine ⟨before ++ [.cutOff e], htrace, fun other hmem => ?_⟩
      rcases List.mem_append.mp hmem with h | h
      · exact absurd h (hbefore other)
      · cases List.mem_singleton.mp h
        exact ⟨hcut, hresult, before, rfl, hbefore⟩

/-- A run that shows a cut fails with its error, when the action stops there. -/
theorem StopsAtCut.error_of_trace {action : Action α} (h : StopsAtCut action) {w : World}
    {events : List Event} {e : ApiError} (htrace : (action w).2.trace = w.trace ++ events)
    (hcut : .cutOff e ∈ events) : (action w).1 = .error e := by
  obtain ⟨others, hothers, hstops⟩ := h w
  rw [htrace, List.append_cancel_left_eq] at hothers
  exact (hstops e (hothers ▸ hcut)).2.1

/-- What an action does when it goes on without an answer where the error may be skipped. -/
def orNone (skips : ApiError → Prop) [DecidablePred skips] (action : Action α) :
    Action (Option α) := fun w =>
  match action w with
  | (.ok a, w) => (.ok (some a), w)
  | (.error e, w) => if skips e then (.ok none, w) else (.error e, w)

namespace EndsAtCut

/-- An action that leaves the trace as it is ends well. -/
theorem of_trace_eq {action : Action α} (h : ∀ w, (action w).2.trace = w.trace) :
    EndsAtCut action := fun w => .of_trace_eq (h w)

/-- An action that is already decided ends well. -/
theorem pure (a : α) : EndsAtCut (pure a : Action α) := of_trace_eq fun _ => rfl

/-- An action that gives up ends well. -/
theorem throw (e : ApiError) : EndsAtCut (throw e : Action α) := of_trace_eq fun _ => rfl

/-- A known result ends well. -/
theorem of_result (result : ApiResult α) : EndsAtCut (ofResult result) := of_trace_eq fun _ => rfl

/-- After a first action that was cut off the second one is not run. -/
theorem bind {action : Action α} {next : α → Action β} (haction : EndsAtCut action)
    (hnext : ∀ a, EndsAtCut (next a)) : EndsAtCut (action >>= next) := by
  intro w
  have hfirst := haction w
  rw [bind_apply]
  rcases hrun : action w with ⟨e | a, middle⟩
  · rw [hrun] at hfirst
    exact hfirst.imp rfl fun e _ herror => by cases herror; rfl
  · rw [hrun] at hfirst
    -- An answer reports no cut, so that none of the calls so far was cut off.
    cases hfirst with
    | whole events htrace huncut => exact .after htrace huncut (hnext a middle)
    | cut before e htrace hbefore hcut hresult => cases hresult

/-- What comes after a known result is run only where there is one. -/
theorem of_result_bind {result : ApiResult α} {next : α → Action β}
    (hnext : ∀ a, result = .ok a → EndsAtCut (next a)) :
    EndsAtCut (ofResult result >>= next) := by
  intro w
  cases result with
  | error e => exact .of_trace_eq rfl
  | ok a => exact hnext a rfl w

/-- A function that leaves the errors of a cut as they are may change every other one. -/
theorem map_error {f : ApiError → ApiError} {action : Action α} (haction : EndsAtCut action)
    (hf : ∀ e, IsCut e → f e = e) : EndsAtCut (action.mapError f) := by
  intro w
  have h := haction w
  unfold mapError
  rcases hrun : action w with ⟨e | a, middle⟩
  · rw [hrun] at h
    refine h.imp rfl fun e hcut herror => ?_
    cases herror
    exact congrArg Except.error (hf e hcut)
  · rw [hrun] at h
    exact h.imp rfl fun e _ herror => by cases herror

/-- Errors that are no cut may be skipped. -/
theorem or_none {skips : ApiError → Prop} [DecidablePred skips] {action : Action α}
    (haction : EndsAtCut action) (hskips : ∀ e, IsCut e → ¬ skips e) :
    EndsAtCut (orNone skips action) := by
  intro w
  have h := haction w
  unfold orNone
  rcases hrun : action w with ⟨e | a, middle⟩
  · rw [hrun] at h
    dsimp only
    split
    · next hskip =>
        -- The error is skipped, so that it is not the error of a cut.
        refine h.imp rfl fun e hcut herror => ?_
        cases herror
        exact absurd hskip (hskips e hcut)
    · exact h.imp rfl fun e _ herror => by cases herror; rfl
  · rw [hrun] at h
    exact h.imp rfl fun e _ herror => by cases herror

end EndsAtCut

end Action

/-! ## Making calls -/

namespace RequestContext

variable {α : Type} {ctx : RequestContext}

/-- A request is over because it was given up or because it ran out of time. -/
theorem is_cut_of_abort {now : Nat} {e : ApiError} (h : ctx.abort? now = some e) : IsCut e := by
  unfold abort? at h
  split at h
  · cases h
    exact Or.inl rfl
  · split at h
    · cases h
      exact Or.inr rfl
    · cases h

/-- A call is cut off for one of the two reasons. -/
theorem is_cut_cut_error (ctx : RequestContext) (now : Nat) : IsCut (ctx.cutError now) := by
  unfold cutError
  cases habort : ctx.abort? now with
  | none => exact Or.inr rfl
  | some e => exact is_cut_of_abort habort

/-- A call that is refused, because the request is over, or that is cut off leaves the event that
says so, with the error that it fails with. -/
theorem run_marks_cut {call : Call α} {w : World}
    (h : ctx.abort? w.now ≠ none ∨ (call ctx.horizon? w).1 = .error .cut) :
    ∃ e, ∃ final : World, ctx.run call w = (.error e, final.emit (.cutOff e)) := by
  cases hlive : ctx.abort? w.now with
  | some e => exact ⟨e, w, run_of_abort hlive⟩
  | none =>
      rcases hcall : call ctx.horizon? w with ⟨outcome, final⟩
      rw [hcall] at h
      rcases h with hover | hcut
      · exact absurd hlive hover
      · cases hcut
        exact ⟨ctx.cutError final.now, final, run_of_cut hlive hcall⟩

/-- Making a quiet call ends when it is cut off. -/
theorem run_ends_at_cut (ctx : RequestContext) {call : Call α} (h : call.Quiet) :
    (ctx.run call).EndsAtCut := by
  intro w
  cases hlive : ctx.abort? w.now with
  | some e =>
      rw [run_of_abort hlive]
      exact .cut [] e rfl .nil (is_cut_of_abort hlive) rfl
  | none =>
      obtain ⟨events, htrace, huncut⟩ := h ctx.horizon? w
      rcases hcall : call ctx.horizon? w with ⟨(_ | e) | a, final⟩
      · rw [hcall] at htrace
        rw [run_of_cut hlive hcall]
        refine .cut events _ ?_ huncut (is_cut_cut_error ctx final.now) rfl
        show final.trace ++ _ = _
        rw [htrace, List.append_assoc]
      · rw [hcall] at htrace
        rw [run_of_failed hlive hcall]
        exact .whole events htrace huncut
      · rw [hcall] at htrace
        rw [run_of_ok hlive hcall]
        exact .whole events htrace huncut

end RequestContext

end VirtualApi

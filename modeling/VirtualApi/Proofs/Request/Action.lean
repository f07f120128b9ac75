import VirtualApi.Proofs.Result
import VirtualApi.Request.Action

/-!
# How actions and calls run

Actions and calls are functions of the world. These are the equations of their combinators, and
what it takes for a call to come through: `abort_eq_none_iff` says that a request still runs at a
time exactly when that time is before its horizon, and `run_eq_ok_iff` when a call made for it
answers. `Action.Yields` is said of an action that has a result and takes no time for it.
-/

namespace VirtualApi

namespace Action

variable {α β : Type}

/-- An action that is already decided leaves the world as it is. -/
@[simp] theorem pure_apply (a : α) (w : World) : (pure a : Action α) w = (.ok a, w) := rfl

/-- An action that gives up leaves the world as it is. -/
@[simp] theorem throw_apply (e : ApiError) (w : World) :
    (throw e : Action α) w = (.error e, w) := rfl

/-- A known result leaves the world as it is. -/
@[simp] theorem of_result_apply (result : ApiResult α) (w : World) :
    ofResult result w = (result, w) := rfl

/-- What comes after a known value goes on with it. -/
theorem of_result_ok_bind (a : α) (next : α → Action β) :
    (ofResult (.ok a) >>= next) = next a := rfl

/-- What comes after a known error is not done. -/
theorem of_result_error_bind (e : ApiError) (next : α → Action β) :
    (ofResult (.error e) >>= next) = throw e := rfl

/-- A computation that cannot fail answers. -/
@[simp] theorem lift_apply (m : StateM World α) (w : World) :
    (liftM m : Action α) w = (.ok (m w).1, (m w).2) := rfl

/-- The second action runs only after the first one answered. -/
@[simp] theorem bind_apply (action : Action α) (next : α → Action β) (w : World) :
    (action >>= next) w =
      match action w with
      | (.ok a, w) => next a w
      | (.error e, w) => (.error e, w) := by
  show (StateT.bind action (ExceptT.bindCont next)) w = _
  unfold StateT.bind
  rcases action w with ⟨_ | a, w⟩ <;> rfl

/-- What comes after an attempt goes on with its result, whatever that is. -/
theorem attempt_bind_apply (action : Action α) (next : ApiResult α → StateM World β) (w : World) :
    (action.attempt >>= next) w = next (action w).1 (action w).2 := rfl

/-- Two actions answer one after the other exactly when each of them does. -/
theorem bind_eq_ok_iff {action : Action α} {next : α → Action β} {w final : World} {b : β} :
    (action >>= next) w = (.ok b, final) ↔
      ∃ a middle, action w = (.ok a, middle) ∧ next a middle = (.ok b, final) := by
  rw [bind_apply]
  constructor
  · intro h
    rcases hfirst : action w with ⟨_ | a, middle⟩
    · rw [hfirst] at h
      cases h
    · rw [hfirst] at h
      exact ⟨a, middle, rfl, h⟩
  · rintro ⟨a, middle, hfirst, hnext⟩
    rw [hfirst]
    exact hnext

/-- Mapping the error does not change an answer. -/
theorem map_error_eq_ok_iff {f : ApiError → ApiError} {action : Action α} {w final : World}
    {a : α} : (action.mapError f) w = (.ok a, final) ↔ action w = (.ok a, final) := by
  unfold mapError
  rcases action w with ⟨_ | a, middle⟩
  · constructor <;> intro h <;> cases h
  · exact Iff.rfl

/-! ## Actions that take no time -/

variable {now : Nat} {action : Action α} {next : α → Action β}

/-- The action has this result whenever it is run at a time, and takes no time. -/
def Yields (now : Nat) (action : Action α) (result : ApiResult α) : Prop :=
  ∀ w : World, w.now = now → ∃ final, action w = (result, final) ∧ final.now = now

/-- What is already decided takes no time. -/
theorem Yields.decided (result : ApiResult α) : Yields now (ofResult result) result :=
  fun w hw => ⟨w, rfl, hw⟩

/-- After an answer comes what is done with it. -/
theorem Yields.bind {a : α} {result : ApiResult β} (h : Yields now action (.ok a))
    (hnext : Yields now (next a) result) : Yields now (action >>= next) result := by
  intro w hw
  obtain ⟨middle, hfirst, hmiddle⟩ := h w hw
  obtain ⟨final, hsecond, hfinal⟩ := hnext middle hmiddle
  refine ⟨final, ?_, hfinal⟩
  rw [bind_apply, hfirst]
  exact hsecond

/-- After an error nothing is done. -/
theorem Yields.bind_error {e : ApiError} (h : Yields now action (.error e)) :
    Yields now (action >>= next) (.error e) := by
  intro w hw
  obtain ⟨final, hfirst, hfinal⟩ := h w hw
  refine ⟨final, ?_, hfinal⟩
  rw [bind_apply, hfirst]

end Action

namespace Call

variable {α β : Type}

/-- A call that is already decided leaves the world as it is. -/
@[simp] theorem pure_apply (a : α) (horizon : Option Nat) (w : World) :
    (pure a : Call α) horizon w = (.ok a, w) := rfl

/-- The second call is made only after the first one answered. -/
@[simp] theorem bind_apply (call : Call α) (next : α → Call β) (horizon : Option Nat)
    (w : World) :
    (call >>= next) horizon w =
      match call horizon w with
      | (.ok a, w) => next a horizon w
      | (.error e, w) => (.error e, w) := by
  show (StateT.bind (call horizon) (ExceptT.bindCont fun a => next a horizon)) w = _
  unfold StateT.bind
  rcases call horizon w with ⟨_ | a, w⟩ <;> rfl

/-- Noting what happened adds it to the trace. -/
@[simp] theorem emit_apply (event : Event) (horizon : Option Nat) (w : World) :
    emit event horizon w = (.ok (), w.emit event) := rfl

/-- A known answer is given. -/
@[simp] theorem answer_ok_apply (a : α) (horizon : Option Nat) (w : World) :
    answer (.ok a) horizon w = (.ok a, w) := rfl

/-- A known error is reported. -/
@[simp] theorem answer_error_apply (e : ApiError) (horizon : Option Nat) (w : World) :
    (answer (.error e) : Call α) horizon w = (.error (.failed e), w) := rfl

/-- A wait that ends before the horizon takes its time. -/
theorem wait_apply_of_lt {duration : Nat} {horizon : Option Nat} {w : World}
    (h : ∀ cut, horizon = some cut → w.now + duration < cut) :
    wait duration horizon w = (.ok (), { w with now := w.now + duration }) := by
  cases horizon with
  | none => rfl
  | some cut =>
      have hcut : ¬ cut ≤ w.now + duration := by
        have := h cut rfl
        omega
      simp only [wait, hcut, if_false]

/-- A wait that lasts to the horizon is cut off there. -/
theorem wait_apply_of_le {duration cut : Nat} {w : World} (h : cut ≤ w.now + duration) :
    wait duration (some cut) w = (.error .cut, { w with now := max w.now cut }) := by
  simp only [wait, h, if_true]

end Call

namespace RequestContext

variable {α : Type}

/-- A request still runs at a time exactly when the time is before its horizon. -/
theorem abort_eq_none_iff {ctx : RequestContext} {now : Nat} :
    ctx.abort? now = none ↔ ∀ cut, ctx.horizon? = some cut → now < cut := by
  unfold abort? isCancelledAt isExpiredAt horizon?
  rcases ctx.cancelAt with _ | c <;> rcases ctx.deadline with _ | d <;> grind

/-- A request that runs at a time ran at every time before. -/
theorem abort_eq_none_of_le {ctx : RequestContext} {now later : Nat} (hle : now ≤ later)
    (h : ctx.abort? later = none) : ctx.abort? now = none := by
  rw [abort_eq_none_iff] at h ⊢
  intro cut hcut
  exact Nat.lt_of_le_of_lt hle (h cut hcut)

/-- A request that is over makes no call. -/
theorem run_of_abort {ctx : RequestContext} {call : Call α} {w : World} {e : ApiError}
    (h : ctx.abort? w.now = some e) : ctx.run call w = (.error e, w.emit (.cutOff e)) := by
  simp only [run, h]

/-- A call that answers before the horizon answers the request. -/
theorem run_of_ok {ctx : RequestContext} {call : Call α} {w final : World} {a : α}
    (hlive : ctx.abort? w.now = none) (hcall : call ctx.horizon? w = (.ok a, final)) :
    ctx.run call w = (.ok a, final) := by
  simp only [run, hlive, hcall]

/-- A call that fails on its own fails the request with its error. -/
theorem run_of_failed {ctx : RequestContext} {call : Call α} {w final : World} {e : ApiError}
    (hlive : ctx.abort? w.now = none)
    (hcall : call ctx.horizon? w = (.error (.failed e), final)) :
    ctx.run call w = (.error e, final) := by
  simp only [run, hlive, hcall]

/-- A call that is under way at the horizon is cut off, for the reason the request is over. -/
theorem run_of_cut {ctx : RequestContext} {call : Call α} {w final : World}
    (hlive : ctx.abort? w.now = none) (hcall : call ctx.horizon? w = (.error .cut, final)) :
    ctx.run call w =
      (.error (ctx.cutError final.now), final.emit (.cutOff (ctx.cutError final.now))) := by
  simp only [run, hlive, hcall]

/-- A call answers a request exactly when the request runs and the call comes through. -/
theorem run_eq_ok_iff {ctx : RequestContext} {call : Call α} {w final : World} {a : α} :
    ctx.run call w = (.ok a, final) ↔
      ctx.abort? w.now = none ∧ call ctx.horizon? w = (.ok a, final) := by
  constructor
  · intro h
    cases hlive : ctx.abort? w.now with
    | some e =>
        rw [run_of_abort hlive] at h
        cases h
    | none =>
        refine ⟨rfl, ?_⟩
        rcases hcall : call ctx.horizon? w with ⟨(_ | e) | b, middle⟩
        · rw [run_of_cut hlive hcall] at h
          cases h
        · rw [run_of_failed hlive hcall] at h
          cases h
        · rw [run_of_ok hlive hcall] at h
          cases h
          rfl
  · rintro ⟨hlive, hcall⟩
    exact run_of_ok hlive hcall

/-- A question that is answered before the request is over: it is noted, takes its time, and what
comes after it goes on from there. -/
theorem emit_wait_apply {ctx : RequestContext} {event : Event} {latency : Nat} {next : Call α}
    {w : World} (hlive : ctx.abort? (w.now + latency) = none) :
    (do Call.emit event; Call.wait latency; next : Call α) ctx.horizon? w =
      next ctx.horizon? { w.emit event with now := w.now + latency } := by
  have hwait : Call.wait latency ctx.horizon? (w.emit event) =
      (.ok (), { w.emit event with now := w.now + latency }) :=
    Call.wait_apply_of_lt (abort_eq_none_iff.mp hlive)
  simp only [Call.bind_apply, Call.emit_apply, hwait]

/-- A question that is under way when the request is over is noted and cut off at the horizon. -/
theorem run_emit_wait_of_cut {ctx : RequestContext} {latency : Nat} {w : World} (event : Event)
    (next : Call α) (hlive : ctx.abort? w.now = none) (hcut : ctx.abort? (w.now + latency) ≠ none) :
    ∃ cut, ctx.run (do Call.emit event; Call.wait latency; next) w =
      (.error (ctx.cutError cut),
        { w with now := cut, trace := w.trace ++ [event, .cutOff (ctx.cutError cut)] }) := by
  cases hhorizon : ctx.horizon? with
  | none => exact absurd (abort_eq_none_iff.mpr (by simp [hhorizon])) hcut
  | some cut =>
      have hbefore : w.now < cut := abort_eq_none_iff.mp hlive cut hhorizon
      have hle : cut ≤ w.now + latency := by
        refine Nat.le_of_not_lt fun hlt => hcut (abort_eq_none_iff.mpr ?_)
        intro other hother
        rw [hhorizon] at hother
        cases hother
        exact hlt
      have hnow : max w.now cut = cut := Nat.max_eq_right (Nat.le_of_lt hbefore)
      have hwait : Call.wait latency ctx.horizon? (w.emit event) =
          (.error .cut, { w.emit event with now := max w.now cut }) := by
        rw [hhorizon]
        exact Call.wait_apply_of_le hle
      have hcall : (do Call.emit event; Call.wait latency; next : Call α) ctx.horizon? w =
          (.error .cut, { w.emit event with now := max w.now cut }) := by
        simp only [Call.bind_apply, Call.emit_apply, hwait]
      refine ⟨cut, (run_of_cut hlive hcall).trans ?_⟩
      simp [World.emit, hnow]

end RequestContext

end VirtualApi

import Mathlib.Logic.Function.Basic
import VirtualApi.Proofs.Cluster.Served
import VirtualApi.Proofs.Request.Interleaving

/-!
# Callers that share a mapper

The kinds that a host cluster serves are remembered for all requests, and requests run side by
side. Here any number of callers look something up at the same time: each does it in steps, between
which the others go on, and a lock lets one at a time ask for the kinds. `Step` lists the steps,
`Step.locked` says that no two callers are ever inside the lock, and `exists_run_alone` that a
caller whom no one interrupts does what `Mapper.resolve` and `Mapper.resolveKind` do.
-/

namespace VirtualApi.Mapper

/-- Where the kinds of a cluster are asked for; only what was asked for is remembered. -/
structure Source where
  ask : Call (List ResourceId)
  keeps_kinds : ask.KeepsKinds

/-- The kinds that a host cluster lists. -/
def Source.host (transport : Transport) : Source where
  ask := Discovery.ask transport
  keeps_kinds := Discovery.ask_keeps_kinds transport

/-- Kinds that are listed by a script. -/
def Source.scripted (rounds : List (ApiResult (List ResourceId))) (latency : Nat) : Source where
  ask := Mapper.scripted rounds latency
  keeps_kinds := scripted_keeps_kinds rounds latency

/-- What a caller looks up. -/
inductive Question where
  | resolve (gvk : GroupVersionKind)
  | resolveKind (group kind : String)

namespace Question

/-- The resource that is looked up, among those served. -/
def lookup : Question → List ResourceId → Option ResourceId
  | .resolve gvk, served => byGvk? served gvk
  | .resolveKind group kind, served => byKind? served group kind

/-- What is answered when this is found. -/
def answer : Question → Option ResourceId → ApiResult (Option ResourceId)
  | .resolve _, some r => .ok (some r)
  | .resolve gvk, none => .error (noMatch gvk)
  | .resolveKind _ _, found => .ok found

end Question

/-- Someone who looks something up for a request. -/
structure Caller where
  ctx : RequestContext
  question : Question

/-- What a caller does when no one else is there. -/
def Caller.call (caller : Caller) (source : Source) : Action (Option ResourceId) :=
  match caller.question with
  | .resolve gvk => do pure (some (← Mapper.resolve source.ask caller.ctx gvk))
  | .resolveKind group kind => Mapper.resolveKind source.ask caller.ctx group kind

/-- How far a caller is. -/
inductive Stage where
  /-- Before the first look. -/
  | arriving
  /-- Nothing was found, and the lock is awaited. -/
  | waiting
  /-- The lock is held, and it is to be seen whether the kinds known are fresh by now. -/
  | entered
  /-- The lock is held, and the kinds are asked for. -/
  | discovering
  /-- The lock is held, and these kinds are to be remembered. -/
  | storing (served : List ResourceId)
  /-- The lock is held, and asking for the kinds is over. -/
  | leaving (outcome : ApiResult Unit)
  /-- The lock is given back, before the last look. -/
  | reading
  | answered (found : Option ResourceId)
  | failed (e : ApiError)
  /-- The caller went away while the lock was awaited. -/
  | withdrawn
  /-- The caller went away while the kinds were asked for; the lock is given back. -/
  | abandoned

namespace Stage

/-- The lock is held. -/
def Inside : Stage → Prop
  | .entered | .discovering | .storing _ | .leaving _ => True
  | .arriving | .waiting | .reading | .answered _ | .failed _ | .withdrawn | .abandoned => False

/-- The kinds were asked for without success. -/
def Fails : Stage → Prop
  | .leaving (.error _) | .abandoned => True
  | _ => False

/-- The result of a caller, once there is one. -/
def result? (question : Question) : Stage → Option (ApiResult (Option ResourceId))
  | .answered found => some (question.answer found)
  | .failed e => some (.error e)
  | _ => none

end Stage

/-- The world, who holds the lock, and how far each caller is. -/
structure System (ι : Type) where
  world : World
  holder : Option ι := none
  stage : ι → Stage := fun _ => .arriving

/-- A caller reached a stage; nothing is noted where something happened elsewhere. -/
abbrev Note (ι : Type) := Option (ι × Stage)

variable {ι : Type} [DecidableEq ι]

/-- A caller goes on to a stage. -/
def System.move (s : System ι) (i : ι) (stage : Stage) : System ι :=
  { s with stage := Function.update s.stage i stage }

/-- What can happen next. A caller whose request is served takes a step; one who waits, for the lock
or for the kinds, may go away; and elsewhere anything but what is remembered of the kinds may
change. -/
inductive Step (source : Source) (callers : ι → Caller) :
    System ι → Note ι → System ι → Prop where
  | hit {s : System ι} {i : ι} {r : ResourceId} (hstage : s.stage i = .arriving)
      (hfound : (callers i).question.lookup (known s.world) = some r) :
      Step source callers s (some (i, .answered (some r))) (s.move i (.answered (some r)))
  | miss {s : System ι} {i : ι} (hstage : s.stage i = .arriving)
      (hfound : (callers i).question.lookup (known s.world) = none) :
      Step source callers s (some (i, .waiting)) (s.move i .waiting)
  | enter {s : System ι} {i : ι} (hstage : s.stage i = .waiting) (hfree : s.holder = none) :
      Step source callers s (some (i, .entered)) ({ s with holder := some i }.move i .entered)
  | fresh {s : System ι} {i : ι} (hstage : s.stage i = .entered)
      (hfresh : isFresh s.world = true) :
      Step source callers s (some (i, .leaving (.ok ()))) (s.move i (.leaving (.ok ())))
  | discover {s : System ι} {i : ι} (hstage : s.stage i = .entered)
      (hold : isFresh s.world = false) :
      Step source callers s (some (i, .discovering)) (s.move i .discovering)
  | succeed {s : System ι} {i : ι} {served : List ResourceId} {w : World}
      (hstage : s.stage i = .discovering)
      (hrun : (callers i).ctx.run source.ask s.world = (.ok served, w)) :
      Step source callers s (some (i, .storing served))
        ({ s with world := w }.move i (.storing served))
  | fail {s : System ι} {i : ι} {e : ApiError} {w : World} (hstage : s.stage i = .discovering)
      (hrun : (callers i).ctx.run source.ask s.world = (.error e, w)) :
      Step source callers s (some (i, .leaving (.error e)))
        ({ s with world := w }.move i (.leaving (.error e)))
  | store {s : System ι} {i : ι} {served : List ResourceId}
      (hstage : s.stage i = .storing served) :
      Step source callers s (some (i, .leaving (.ok ())))
        ({ s with world := (store served s.world).2 }.move i (.leaving (.ok ())))
  | leave {s : System ι} {i : ι} (hstage : s.stage i = .leaving (.ok ())) :
      Step source callers s (some (i, .reading)) ({ s with holder := none }.move i .reading)
  | giveUp {s : System ι} {i : ι} {e : ApiError} (hstage : s.stage i = .leaving (.error e)) :
      Step source callers s (some (i, .failed e)) ({ s with holder := none }.move i (.failed e))
  | answer {s : System ι} {i : ι} {found : Option ResourceId} (hstage : s.stage i = .reading)
      (hfound : (callers i).question.lookup (known s.world) = found) :
      Step source callers s (some (i, .answered found)) (s.move i (.answered found))
  | withdraw {s : System ι} {i : ι} (hstage : s.stage i = .waiting) :
      Step source callers s (some (i, .withdrawn)) (s.move i .withdrawn)
  | abandon {s : System ι} {i : ι} (hstage : s.stage i = .discovering) :
      Step source callers s (some (i, .abandoned))
        ({ s with holder := none }.move i .abandoned)
  | elsewhere {s : System ι} {w : World} (hkinds : w.kinds = s.world.kinds) :
      Step source callers s none { s with world := w }

namespace System

variable {s : System ι} {i j : ι} {stage : Stage}

/-- A caller is where it goes. -/
@[simp] theorem move_stage_self : (s.move i stage).stage i = stage := Function.update_self ..

/-- The others stay where they are. -/
@[simp] theorem move_stage_of_ne (h : j ≠ i) : (s.move i stage).stage j = s.stage j :=
  Function.update_of_ne h ..

/-- The world stays as it is when a caller goes on. -/
@[simp] theorem move_world : (s.move i stage).world = s.world := rfl

/-- The lock stays with whoever holds it when a caller goes on. -/
@[simp] theorem move_holder : (s.move i stage).holder = s.holder := rfl

/-- Something holds of all callers when it holds of the one that went on and of the others. -/
theorem forall_move {P : Stage → Prop} (hnew : P stage) (h : ∀ j, j ≠ i → P (s.stage j))
    (j : ι) : P ((s.move i stage).stage j) := by
  by_cases hj : j = i
  · subst hj
    rw [move_stage_self]
    exact hnew
  · rw [move_stage_of_ne hj]
    exact h j hj

end System

/-! ## The lock -/

/-- Exactly the caller who is inside holds the lock. -/
def Locked (s : System ι) : Prop := ∀ i, (s.stage i).Inside ↔ s.holder = some i

namespace Locked

variable {s : System ι} {i j : ι} {old stage : Stage}

omit [DecidableEq ι] in
/-- Only one caller is inside. -/
theorem eq (h : Locked s) (hi : (s.stage i).Inside) (hj : (s.stage j).Inside) : i = j :=
  Option.some.inj (((h i).mp hi).symm.trans ((h j).mp hj))

omit [DecidableEq ι] in
/-- The world does not matter to the lock. -/
theorem with_world (h : Locked s) (w : World) : Locked { s with world := w } := h

/-- A caller may go on inside, or outside. -/
theorem move (h : Locked s) (hold : s.stage i = old) (hsame : stage.Inside ↔ old.Inside) :
    Locked (s.move i stage) := by
  intro j
  by_cases hj : j = i
  · subst hj
    rw [System.move_stage_self, hsame, ← hold]
    exact h j
  · rw [System.move_stage_of_ne hj]
    exact h j

/-- The lock is taken by a caller who goes inside. -/
theorem enter (h : Locked s) (hfree : s.holder = none) (hinside : stage.Inside) :
    Locked ({ s with holder := some i }.move i stage) := by
  intro j
  by_cases hj : j = i
  · subst hj
    exact iff_of_true (by rwa [System.move_stage_self]) rfl
  · rw [System.move_stage_of_ne hj]
    refine iff_of_false (fun hinside => ?_) fun heq => hj (Option.some.inj heq).symm
    have hholder := (h j).mp hinside
    rw [hfree] at hholder
    cases hholder

/-- The lock is given back by a caller who goes outside. -/
theorem leave (h : Locked s) (hold : s.stage i = old) (hinside : old.Inside)
    (houtside : ¬ stage.Inside) : Locked ({ s with holder := none }.move i stage) := by
  intro j
  by_cases hj : j = i
  · subst hj
    exact iff_of_false (by rwa [System.move_stage_self]) fun heq => nomatch heq
  · rw [System.move_stage_of_ne hj]
    exact iff_of_false (fun hother => hj (h.eq hother (hold ▸ hinside))) fun heq => nomatch heq

end Locked

variable {source : Source} {callers : ι → Caller} {s next : System ι} {note : Note ι}

/-- Every step leaves the lock with the caller who is inside. -/
theorem Step.locked (h : Step source callers s note next) (hlocked : Locked s) : Locked next := by
  cases h with
  | hit hstage _ => exact hlocked.move hstage .rfl
  | miss hstage _ => exact hlocked.move hstage .rfl
  | enter _ hfree => exact hlocked.enter hfree trivial
  | fresh hstage _ => exact hlocked.move hstage .rfl
  | discover hstage _ => exact hlocked.move hstage .rfl
  | succeed hstage _ => exact (hlocked.with_world _).move hstage .rfl
  | fail hstage _ => exact (hlocked.with_world _).move hstage .rfl
  | store hstage => exact (hlocked.with_world _).move hstage .rfl
  | leave hstage => exact hlocked.leave hstage trivial id
  | giveUp hstage => exact hlocked.leave hstage trivial id
  | answer hstage _ => exact hlocked.move hstage .rfl
  | withdraw hstage => exact hlocked.move hstage .rfl
  | abandon hstage => exact hlocked.leave hstage trivial id
  | elsewhere _ => exact hlocked.with_world _

/-! ## A caller alone -/

/-- One caller takes some steps, and nothing else happens. -/
def Goes (source : Source) (callers : ι → Caller) (i : ι) (s final : System ι) : Prop :=
  ∃ stages : List Stage,
    Run (Step source callers) s (stages.map fun stage => some (i, stage)) final

namespace Goes

variable {i : ι} {final : System ι} {stage : Stage}

/-- A caller may stay. -/
theorem start (source : Source) (callers : ι → Caller) (i : ι) (s : System ι) :
    Goes source callers i s s := ⟨[], .start⟩

/-- A caller may take one more step. -/
theorem step (h : Goes source callers i s next)
    (hstep : Step source callers next (some (i, stage)) final) : Goes source callers i s final := by
  obtain ⟨stages, hrun⟩ := h
  refine ⟨stages ++ [stage], ?_⟩
  rw [List.map_append]
  exact .step hrun hstep

/-- What a caller does next may be put after what the caller did. -/
theorem trans (h : Goes source callers i s next) (hnext : Goes source callers i next final) :
    Goes source callers i s final := by
  obtain ⟨stages, hrun⟩ := h
  obtain ⟨others, hothers⟩ := hnext
  refine ⟨stages ++ others, ?_⟩
  rw [List.map_append]
  exact Run.append_iff.mpr ⟨next, hrun, hothers⟩

end Goes

variable {i : ι}

/-- A caller inside who is not interrupted refreshes what is known. -/
theorem exists_refresh_alone (source : Source) (callers : ι → Caller)
    (hstage : s.stage i = .entered) :
    ∃ final, Goes source callers i s final ∧
      final.world = (refresh source.ask (callers i).ctx s.world).2 ∧
      final.stage i = .leaving (refresh source.ask (callers i).ctx s.world).1 := by
  unfold refresh
  cases hfresh : isFresh s.world with
  | true =>
      have hleaving := (Goes.start source callers i s).step (.fresh hstage hfresh)
      exact ⟨_, hleaving, rfl, System.move_stage_self⟩
  | false =>
      have hasking := (Goes.start source callers i s).step
        (.discover hstage hfresh)
      simp only [Action.bind_apply]
      rcases hrun : (callers i).ctx.run source.ask s.world with ⟨e | served, w⟩
      · exact ⟨_, hasking.step (.fail System.move_stage_self hrun), rfl, System.move_stage_self⟩
      · have hstoring := hasking.step (.succeed System.move_stage_self hrun)
        exact ⟨_, hstoring.step (.store System.move_stage_self), rfl, System.move_stage_self⟩

/-- The lookup of a caller answers with what is found, or fails with the error of asking. -/
theorem Caller.call_apply (caller : Caller) (source : Source) (w : World) :
    caller.call source w =
      match find source.ask caller.ctx caller.question.lookup w with
      | (.ok found, final) => (caller.question.answer found, final)
      | (.error e, final) => (.error e, final) := by
  rcases caller with ⟨ctx, gvk | ⟨group, kind⟩⟩
  · have hlookup : (byGvk? · gvk) = (Question.resolve gvk).lookup := rfl
    simp only [call, resolve, hlookup, Action.bind_apply]
    rcases find source.ask ctx (Question.resolve gvk).lookup w with ⟨_ | _ | r, final⟩ <;> rfl
  · have hlookup : (byKind? · group kind) = (Question.resolveKind group kind).lookup := rfl
    simp only [call, resolveKind, hlookup]
    rcases find source.ask ctx (Question.resolveKind group kind).lookup w with
      ⟨_ | found, final⟩ <;> rfl

/-- A caller who finds nothing goes inside when the lock is free. -/
theorem exists_entered_alone (source : Source) (callers : ι → Caller)
    (hstage : s.stage i = .arriving) (hfree : s.holder = none)
    (hmiss : (callers i).question.lookup (known s.world) = none) :
    ∃ final, Goes source callers i s final ∧ final.world = s.world ∧
      final.stage i = .entered := by
  have hwaiting := (Goes.start source callers i s).step (.miss hstage hmiss)
  exact ⟨_, hwaiting.step (.enter System.move_stage_self hfree), rfl, System.move_stage_self⟩

/-- A caller whom no one interrupts does what the lookup does: it comes to the same result, and
leaves the same world. -/
theorem exists_run_alone (source : Source) (callers : ι → Caller) (hstage : s.stage i = .arriving)
    (hfree : s.holder = none) :
    ∃ final, Goes source callers i s final ∧
      final.world = ((callers i).call source s.world).2 ∧
      (final.stage i).result? (callers i).question =
        some ((callers i).call source s.world).1 := by
  rw [Caller.call_apply]
  unfold find
  cases hfound : (callers i).question.lookup (known s.world) with
  | some r =>
      refine ⟨_, (Goes.start source callers i s).step (.hit hstage hfound), ?_, ?_⟩
      · simp [look, hfound]
      · simp [look, hfound, Stage.result?]
  | none =>
      obtain ⟨entered, henter, hsame, hentered⟩ :=
        exists_entered_alone source callers hstage hfree hfound
      obtain ⟨left, hrefresh, hworld, hleft⟩ := exists_refresh_alone source callers hentered
      rw [hsame] at hworld hleft
      have hdone := henter.trans hrefresh
      rcases hresult : refresh source.ask (callers i).ctx s.world with ⟨e | ⟨⟩, w⟩ <;>
        rw [hresult] at hworld hleft
      · refine ⟨_, hdone.step (.giveUp hleft), ?_, ?_⟩
        · simp [look, hfound, hresult, hworld]
        · simp [look, hfound, hresult, Stage.result?]
      · have hreading := hdone.step (.leave hleft)
        refine ⟨_, hreading.step (.answer System.move_stage_self rfl), ?_, ?_⟩
        · simp [look, hfound, hresult, hworld]
        · simp [look, hfound, hresult, hworld, Stage.result?]

end VirtualApi.Mapper

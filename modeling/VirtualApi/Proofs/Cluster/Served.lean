import VirtualApi.Cluster.Host
import VirtualApi.Proofs.Request.Action

/-!
# What is remembered of the kinds

A world remembers the kinds that the host cluster serves. Asking for them does not change what is
remembered, neither when a cluster is asked (`Discovery.ask_keeps_kinds`) nor when the answers are
scripted (`Mapper.scripted_keeps_kinds`): only `Mapper.store` does.
-/

namespace VirtualApi

/-- Where the same is remembered the same resources are known. -/
theorem World.served_of_kinds_eq {w later : World} (h : later.kinds = w.kinds) :
    later.served = w.served := congrArg (·.map KnownKinds.resources) h

namespace Call

variable {α β : Type}

/-- A call leaves what is remembered of the kinds alone. -/
def KeepsKinds (call : Call α) : Prop := ∀ horizon w, (call horizon w).2.kinds = w.kinds

namespace KeepsKinds

/-- Nothing is changed by a call that is already decided. -/
theorem pure (a : α) : KeepsKinds (pure a : Call α) := fun _ _ => rfl

/-- Nothing is changed by a known answer. -/
theorem answer (result : ApiResult α) : KeepsKinds (Call.answer result) := by
  intro horizon w
  cases result <;> rfl

/-- Noting what happened does not change what is remembered. -/
theorem emit (event : Event) : KeepsKinds (Call.emit event) := fun _ _ => rfl

/-- Waiting does not change what is remembered. -/
theorem wait (duration : Nat) : KeepsKinds (Call.wait duration) := by
  intro horizon w
  cases horizon with
  | none => rfl
  | some cut =>
      unfold Call.wait
      dsimp only
      split <;> rfl

/-- Two calls one after the other leave alone what both leave alone. -/
theorem bind {call : Call α} {next : α → Call β} (hcall : KeepsKinds call)
    (hnext : ∀ a, KeepsKinds (next a)) : KeepsKinds (call >>= next) := by
  intro horizon w
  have hfirst := hcall horizon w
  rw [Call.bind_apply]
  rcases hrun : call horizon w with ⟨_ | a, middle⟩ <;> rw [hrun] at hfirst
  · exact hfirst
  · exact (hnext a horizon middle).trans hfirst

/-- So do calls on each item of a list. -/
theorem mapM {f : α → Call β} (h : ∀ a, KeepsKinds (f a)) (items : List α) :
    KeepsKinds (items.mapM f) := by
  induction items with
  | nil => exact pure []
  | cons item rest ih =>
      rw [List.mapM_cons]
      exact bind (h item) fun _ => bind ih fun _ => pure _

end KeepsKinds

end Call

/-- A call that is made for a request leaves alone what it leaves alone by itself. -/
theorem RequestContext.run_keeps_kinds {α : Type} (ctx : RequestContext) {call : Call α}
    (h : call.KeepsKinds) (w : World) : (ctx.run call w).2.kinds = w.kinds := by
  have hcall := h ctx.horizon? w
  unfold run
  split
  · rfl
  · rcases hrun : call ctx.horizon? w with ⟨(_ | _) | _, final⟩ <;> rw [hrun] at hcall <;>
      exact hcall

/-- Asking a transport for a value does not change what is remembered. -/
theorem Transport.get_keeps_kinds (transport : Transport) {α : Type}
    (unbuildable : UriError → String) (text : String) (read : RawReader α) :
    (transport.get unbuildable text read).KeepsKinds := by
  unfold get
  split
  · exact .answer _
  · exact .bind (.bind (.emit _) fun _ => .bind (.wait _) fun _ => .pure _) fun _ => .answer _

namespace Discovery

variable (transport : Transport)

/-- Asking for the versions of a group does not change what is remembered. -/
theorem ask_versions_keeps_kinds (name : String) (versions : List (String × String)) :
    (askVersions transport name versions).KeepsKinds := by
  unfold askVersions
  split
  · exact .answer _
  · refine .bind (.mapM ?_ versions) fun _ => .pure _
    intro version
    exact .bind (transport.get_keeps_kinds _ _ _) fun _ => .pure _

/-- Asking a cluster for all resources does not change what is remembered. -/
theorem ask_keeps_kinds : (ask transport).KeepsKinds := by
  refine .bind (.emit _) fun _ => ?_
  refine .bind (transport.get_keeps_kinds _ _ _) fun groups => ?_
  refine .bind (.mapM ?_ groups) fun _ => ?_
  · intro group
    exact .bind (ask_versions_keeps_kinds transport _ _) fun _ => .pure _
  · refine .bind (transport.get_keeps_kinds _ _ _) fun _ => ?_
    exact .bind (ask_versions_keeps_kinds transport _ _) fun _ => .pure _

end Discovery

namespace Mapper

variable {w : World}

/-- Resources that are fresh are known. -/
theorem exists_served_of_fresh (h : isFresh w = true) : ∃ served, w.served = some served := by
  unfold isFresh at h
  unfold World.served
  cases hkinds : w.kinds with
  | none =>
      rw [hkinds] at h
      cases h
  | some kinds => exact ⟨kinds.resources, rfl⟩

/-- Without known resources there are no fresh ones. -/
theorem not_fresh_of_unknown (h : w.served = none) : isFresh w = false := by
  refine Bool.eq_false_iff.mpr fun hfresh => ?_
  obtain ⟨served, hserved⟩ := exists_served_of_fresh hfresh
  rw [h] at hserved
  cases hserved

/-- Scripted answers do not change what is remembered. -/
theorem scripted_keeps_kinds (rounds : List (ApiResult (List ResourceId)))
    (latency : Nat) : (scripted rounds latency).KeepsKinds := by
  intro horizon w
  have hround : Call.KeepsKinds (do
      Call.emit .discovery
      Call.wait latency
      Call.emit .answerUsed
      Call.answer ((rounds[w.answersUsed]?).getD (.ok [])) : Call (List ResourceId)) :=
    .bind (.emit _) fun _ => .bind (.wait _) fun _ => .bind (.emit _) fun _ => .answer _
  exact hround horizon w

end Mapper

end VirtualApi

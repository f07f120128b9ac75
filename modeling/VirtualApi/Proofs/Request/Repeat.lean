import VirtualApi.Chart.Registry
import VirtualApi.Proofs.Request.Cutoff

/-!
# What is answered again

`Action.Repeats` says that an action which answered gives the same answer when it is run again, in
any later world where the request still runs and no chart was forgotten. The combinators of actions
keep it.
-/

namespace VirtualApi

/-- Every chart that is kept in one world is kept in the other. -/
def World.Keeps (w later : World) : Prop :=
  ∀ path chart, ChartRegistry.kept? path w = some chart →
    ChartRegistry.kept? path later = some chart

namespace World.Keeps

variable {w middle later : World}

/-- A world keeps its own charts. -/
theorem refl (w : World) : w.Keeps w := fun _ _ h => h

/-- What is kept from one world to the next and from there on is kept. -/
theorem trans (hfirst : w.Keeps middle) (hsecond : middle.Keeps later) : w.Keeps later :=
  fun path chart h => hsecond path chart (hfirst path chart h)

/-- Where the charts are the same, they are kept. -/
theorem of_charts_eq (h : later.charts = w.charts) : w.Keeps later := by
  intro path chart hkept
  unfold ChartRegistry.kept? at hkept ⊢
  rw [h]
  exact hkept

end World.Keeps

namespace Action

variable {α β : Type} {ctx : RequestContext}

/-- The action forgets no chart, and once it has answered, it gives the same answer at once in every
later world where the request still runs. -/
structure Repeats (ctx : RequestContext) (action : Action α) : Prop where
  keeps : ∀ w : World, w.Keeps (action w).2
  again : ∀ {w final later : World} {a : α}, action w = (.ok a, final) → final.Keeps later →
    ctx.abort? later.now = none → ∃ repeated, action later = (.ok a, repeated) ∧
      repeated.now = later.now

namespace Repeats

/-- An action that leaves the world as it is and does not depend on it answers again. -/
theorem of_const {action : Action α} {result : ApiResult α} (h : ∀ w, action w = (result, w)) :
    Repeats ctx action where
  keeps w := by
    rw [h]
    exact .refl w
  again {w final later a} hrun _ _ := by
    rw [h] at hrun
    cases hrun
    exact ⟨later, h later, rfl⟩

/-- An action that is already decided answers again. -/
theorem pure (a : α) : Repeats ctx (pure a : Action α) := of_const fun _ => rfl

/-- An action that gives up has no answer to repeat. -/
theorem throw (e : ApiError) : Repeats ctx (throw e : Action α) := of_const fun _ => rfl

/-- A known result is given again. -/
theorem of_result (result : ApiResult α) : Repeats ctx (ofResult result) := of_const fun _ => rfl

/-- Two actions one after the other answer again. -/
theorem bind {action : Action α} {next : α → Action β} (haction : Repeats ctx action)
    (hnext : ∀ a, Repeats ctx (next a)) : Repeats ctx (action >>= next) where
  keeps w := by
    have hfirst := haction.keeps w
    rw [bind_apply]
    rcases hrun : action w with ⟨_ | a, middle⟩
    · rw [hrun] at hfirst
      exact hfirst
    · rw [hrun] at hfirst
      exact hfirst.trans ((hnext a).keeps middle)
  again {w final later b} hrun hkeeps hlive := by
    obtain ⟨a, middle, hfirst, hsecond⟩ := bind_eq_ok_iff.mp hrun
    have hmiddle : middle.Keeps final := by
      have h := (hnext a).keeps middle
      rwa [hsecond] at h
    obtain ⟨between, hbetween, hnow⟩ := haction.again hfirst (hmiddle.trans hkeeps) hlive
    -- the second action starts where the first one ended, at the same time
    have hbetweenKeeps : later.Keeps between := by
      have h := haction.keeps later
      rwa [hbetween] at h
    obtain ⟨repeated, hrepeated, hend⟩ :=
      (hnext a).again hsecond (hkeeps.trans hbetweenKeeps) (by rw [hnow]; exact hlive)
    exact ⟨repeated, bind_eq_ok_iff.mpr ⟨a, between, hbetween, hrepeated⟩, hend.trans hnow⟩

/-- Another wording of the errors leaves the answers as they are. -/
theorem map_error {f : ApiError → ApiError} {action : Action α} (haction : Repeats ctx action) :
    Repeats ctx (action.mapError f) where
  keeps w := by
    have h := haction.keeps w
    unfold mapError
    rcases hrun : action w with ⟨_ | _, final⟩ <;> (rw [hrun] at h; exact h)
  again {w final later a} hrun hkeeps hlive := by
    obtain ⟨repeated, hrepeated, hnow⟩ :=
      haction.again (map_error_eq_ok_iff.mp hrun) hkeeps hlive
    exact ⟨repeated, map_error_eq_ok_iff.mpr hrepeated, hnow⟩

end Repeats

end Action

end VirtualApi

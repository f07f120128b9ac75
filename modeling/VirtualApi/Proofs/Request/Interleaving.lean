import Mathlib.Data.List.Induction

/-!
# Runs of steps that interleave

What several parties do in turn is a run: steps one after the other, each with the event that it is
noted as. The history of a run is its events, the first one first. `Run.invariant` is the induction
over a run, and `Run.around` finds the two states that an event of the history stands between.
-/

namespace VirtualApi

variable {σ ε : Type} {Step : σ → ε → σ → Prop}

/-- From a state, steps with these events lead to another one. -/
inductive Run (Step : σ → ε → σ → Prop) (first : σ) : List ε → σ → Prop where
  | start : Run Step first [] first
  | step {history : List ε} {state next : σ} {event : ε} (h : Run Step first history state)
      (hstep : Step state event next) : Run Step first (history ++ [event]) next

namespace Run

variable {first final : σ} {history before after : List ε} {event : ε}

/-- What holds at first, and after a step where it held before, holds all along. -/
theorem invariant {P : List ε → σ → Prop} (hstart : P [] first)
    (hstep : ∀ history state event next, P history state → Step state event next →
      P (history ++ [event]) next)
    (h : Run Step first history final) : P history final := by
  induction h with
  | start => exact hstart
  | step _ hlast ih => exact hstep _ _ _ _ ih hlast

/-- What a step keeps lasts. -/
theorem lasts {P : σ → Prop} (hfirst : P first)
    (hstep : ∀ state event next, P state → Step state event next → P next)
    (h : Run Step first history final) : P final :=
  h.invariant (P := fun _ state => P state) hfirst fun _ state event next => hstep state event next

/-- A run without events stays where it is. -/
theorem eq_of_nil (h : Run Step first [] final) : final = first := by
  generalize hevents : ([] : List ε) = events at h
  cases h with
  | start => rfl
  | step => exact absurd hevents.symm (List.append_ne_nil_of_right_ne_nil _ (List.cons_ne_nil _ _))

/-- A run with a last event is a run that ends with its step. -/
theorem concat_iff : Run Step first (history ++ [event]) final ↔
    ∃ state, Run Step first history state ∧ Step state event final := by
  constructor
  · intro h
    generalize hevents : history ++ [event] = events at h
    cases h with
    | start => exact absurd hevents (List.append_ne_nil_of_right_ne_nil _ (List.cons_ne_nil _ _))
    | step h hstep =>
        obtain ⟨rfl, heq⟩ := List.append_inj' hevents rfl
        cases heq
        exact ⟨_, h, hstep⟩
  · rintro ⟨state, h, hstep⟩
    exact .step h hstep

/-- A run can be parted where its history is. -/
theorem append_iff : Run Step first (before ++ after) final ↔
    ∃ middle, Run Step first before middle ∧ Run Step middle after final := by
  induction after using List.reverseRecOn generalizing final with
  | nil =>
      rw [List.append_nil]
      constructor
      · intro h
        exact ⟨final, h, .start⟩
      · rintro ⟨middle, h, hnil⟩
        rwa [hnil.eq_of_nil]
  | append_singleton rest event ih =>
      rw [← List.append_assoc, concat_iff]
      constructor
      · rintro ⟨state, h, hstep⟩
        obtain ⟨middle, hbefore, hrest⟩ := ih.mp h
        exact ⟨middle, hbefore, .step hrest hstep⟩
      · rintro ⟨middle, hbefore, hrest⟩
        obtain ⟨state, hstate, hstep⟩ := concat_iff.mp hrest
        exact ⟨state, ih.mpr ⟨middle, hbefore, hstate⟩, hstep⟩

/-- An event of a history stands between two states of the run. -/
theorem around (h : Run Step first (before ++ event :: after) final) :
    ∃ state next, Run Step first before state ∧ Step state event next ∧
      Run Step next after final := by
  rw [List.append_cons, append_iff] at h
  obtain ⟨next, hnext, hafter⟩ := h
  obtain ⟨state, hbefore, hstep⟩ := concat_iff.mp hnext
  exact ⟨state, next, hbefore, hstep, hafter⟩

end Run

end VirtualApi

import VirtualApi.Proofs.Cluster.Callers

/-!
# The kinds are asked for once

When callers share a mapper that knows nothing at first, the lock keeps them from asking for the
kinds more often than they have to. While the list that is known stays fresh (`FreshStep`), every
step keeps `Consistent`: nothing is known yet, or the one list that was given is about to be
remembered, or it is known (`Phase`). The main theorem, `discovers_once`, says for every run of such
steps that at most one list is given, that the kinds are asked for again only after failures, and
that every answer is that of the one list.
-/

namespace VirtualApi.Mapper

variable {ι : Type} [DecidableEq ι] {source : Source} {callers : ι → Caller} {s next : System ι}
  {note : Note ι}

/-! ## What is known -/

/-- A step that is taken while the kinds known, if there are any, are fresh. -/
structure FreshStep (source : Source) (callers : ι → Caller) (s : System ι) (note : Note ι)
    (next : System ι) : Prop where
  step : Step source callers s note next
  fresh : s.world.served ≠ none → isFresh s.world = true

namespace FreshStep

/-- Every step is taken so while nothing is known. -/
theorem of_unknown (hserved : s.world.served = none) (h : Step source callers s note next) :
    FreshStep source callers s note next := ⟨h, fun hknown => absurd hserved hknown⟩

/-- What is known at such a step is fresh. -/
theorem fresh_of_known (h : FreshStep source callers s note next) {served : List ResourceId}
    (hserved : s.world.served = some served) : isFresh s.world = true :=
  h.fresh (by rw [hserved]; exact Option.some_ne_none served)

end FreshStep

/-- The list that a step was given by the source, if it was. -/
def success? : Note ι → Option (List ResourceId)
  | some (_, .storing served) => some served
  | _ => none

/-- The lists that the source gave. -/
def successes (history : List (Note ι)) : List (List ResourceId) := history.filterMap success?

/-- Stages that are reached before any list was given. -/
def Stage.Early : Stage → Prop
  | .storing _ | .leaving (.ok _) | .reading | .answered _ => False
  | _ => True

/-- Stages in which the source is not asked. -/
def Stage.Late : Stage → Prop
  | .discovering | .storing _ => False
  | _ => True

/-- Before any list is given, only someone inside asks the source. -/
theorem Stage.Early.late {stage : Stage} (h : stage.Early) (houtside : ¬ stage.Inside) :
    stage.Late := by
  cases stage with
  | discovering => exact houtside trivial
  | storing => exact h
  | _ => trivial

/-- What is known after a history: nothing yet; a list that is about to be remembered by the one
who got it; or the one list that was given. -/
inductive Phase (history : List (Note ι)) (s : System ι) : Prop where
  | unknown (hserved : s.world.served = none) (hnone : successes history = [])
      (hearly : ∀ i, (s.stage i).Early)
  | obtained (i : ι) (served : List ResourceId) (hserved : s.world.served = none)
      (hone : successes history = [served]) (hstage : s.stage i = .storing served)
      (hearly : ∀ j, j ≠ i → (s.stage j).Early)
  | known (served : List ResourceId) (hserved : s.world.served = some served)
      (hone : successes history = [served]) (hlate : ∀ i, (s.stage i).Late)

omit [DecidableEq ι] in
/-- The lists given are those given before and the one of the last step. -/
theorem successes_concat (history : List (Note ι)) (note : Note ι) :
    successes (history ++ [note]) = successes history ++ (success? note).toList := by
  unfold successes
  rw [List.filterMap_append]
  cases hnote : success? note <;> simp [hnote]

/-- Nothing is found as long as no kinds are known. -/
theorem Question.lookup_of_unknown (question : Question) {w : World} (h : w.served = none) :
    question.lookup (Mapper.known w) = none := by
  unfold Mapper.known
  rw [h]
  cases question <;> rfl

namespace Phase

variable {history : List (Note ι)} {s : System ι} {i j : ι} {stage : Stage}
  {served : List ResourceId}

/-- Nothing is known yet, and a caller goes on without a list. -/
theorem unknown_move (hserved : s.world.served = none) (hnone : successes history = [])
    (hearly : ∀ i, (s.stage i).Early) (hstage : stage.Early) :
    Phase (history ++ [some (i, stage)]) (s.move i stage) := by
  have hnote : success? (some (i, stage)) = none := by cases stage <;> first | rfl | cases hstage
  refine .unknown hserved ?_ (System.forall_move hstage fun j _ => hearly j)
  rw [successes_concat, hnone, hnote]
  rfl

/-- A list is about to be remembered, and another caller goes on. -/
theorem obtained_move (hserved : s.world.served = none) (hone : successes history = [served])
    (hstoring : s.stage j = .storing served) (hearly : ∀ i, i ≠ j → (s.stage i).Early)
    (hother : i ≠ j) (hstage : stage.Early) :
    Phase (history ++ [some (i, stage)]) (s.move i stage) := by
  have hnote : success? (some (i, stage)) = none := by cases stage <;> first | rfl | cases hstage
  refine .obtained j served hserved ?_ ?_ fun k hk => ?_
  · rw [successes_concat, hone, hnote]
    rfl
  · rw [System.move_stage_of_ne hother.symm]
    exact hstoring
  · by_cases hi : k = i
    · subst hi
      rw [System.move_stage_self]
      exact hstage
    · rw [System.move_stage_of_ne hi]
      exact hearly k hk

/-- The list is known, and a caller goes on. -/
theorem known_move (hserved : s.world.served = some served) (hone : successes history = [served])
    (hlate : ∀ j, j ≠ i → (s.stage j).Late) (hstage : stage.Late) :
    Phase (history ++ [some (i, stage)]) (s.move i stage) := by
  have hnote : success? (some (i, stage)) = none := by cases stage <;> first | rfl | cases hstage
  refine .known served hserved ?_ (System.forall_move hstage hlate)
  rw [successes_concat, hone, hnote]
  rfl

end Phase

namespace Step

variable {history : List (Note ι)} {served : List ResourceId}

/-- As long as nothing is known, a step leaves it so, or gives the first list. -/
theorem phase_of_unknown (h : Step source callers s note next) (hserved : s.world.served = none)
    (hnone : successes history = []) (hearly : ∀ i, (s.stage i).Early) :
    Phase (history ++ [note]) next := by
  have hkept (i : ι) : ((callers i).ctx.run source.ask s.world).2.served = none :=
    (World.served_of_kinds_eq ((callers i).ctx.run_keeps_kinds source.keeps_kinds s.world)).trans
      hserved
  have hexcluded {i : ι} {stage : Stage} (hstage : s.stage i = stage) : stage.Early :=
    hstage ▸ hearly i
  cases h with
  | hit _ hfound =>
      rw [Question.lookup_of_unknown _ hserved] at hfound
      cases hfound
  | miss => exact .unknown_move hserved hnone hearly trivial
  | enter => exact .unknown_move hserved hnone hearly trivial
  | fresh _ hfresh =>
      rw [not_fresh_of_unknown hserved] at hfresh
      cases hfresh
  | discover => exact .unknown_move hserved hnone hearly trivial
  | @succeed i served w hstage hrun =>
      have hw : w.served = none := by rw [← hkept i, hrun]
      refine .obtained i served hw ?_ System.move_stage_self fun j hj => ?_
      · rw [successes_concat, hnone]
        rfl
      · rw [System.move_stage_of_ne hj]
        exact hearly j
  | @fail i e w hstage hrun =>
      have hw : w.served = none := by rw [← hkept i, hrun]
      exact .unknown_move hw hnone hearly trivial
  | store hstage => exact (hexcluded hstage).elim
  | leave hstage => exact (hexcluded hstage).elim
  | giveUp => exact .unknown_move hserved hnone hearly trivial
  | answer hstage => exact (hexcluded hstage).elim
  | withdraw => exact .unknown_move hserved hnone hearly trivial
  | abandon => exact .unknown_move hserved hnone hearly trivial
  | elsewhere hkinds =>
      refine .unknown ((World.served_of_kinds_eq hkinds).trans hserved) ?_ hearly
      rw [successes_concat, hnone]
      rfl

/-- While a list is about to be remembered, no one else is inside; then it is remembered. -/
theorem phase_of_obtained (h : Step source callers s note next) (hlocked : Locked s) {j : ι}
    (hserved : s.world.served = none) (hone : successes history = [served])
    (hstoring : s.stage j = .storing served) (hearly : ∀ i, i ≠ j → (s.stage i).Early) :
    Phase (history ++ [note]) next := by
  -- whoever is inside is the one who got the list, and in no other stage
  have hinside {i : ι} {stage : Stage} (hstage : s.stage i = stage) (h : stage.Inside) :
      stage = .storing served := by
    have hi : i = j := hlocked.eq (by rwa [hstage]) (by rw [hstoring]; trivial)
    rw [← hstage, hi, hstoring]
  have hother {i : ι} {stage : Stage} (hstage : s.stage i = stage) (h : ¬ stage.Inside) :
      i ≠ j := by
    rintro rfl
    rw [hstoring] at hstage
    exact h (hstage ▸ trivial)
  cases h with
  | hit _ hfound =>
      rw [Question.lookup_of_unknown _ hserved] at hfound
      cases hfound
  | miss hstage => exact .obtained_move hserved hone hstoring hearly (hother hstage id) trivial
  | enter hstage hfree =>
      have hholder : s.holder = some j := (hlocked j).mp (by rw [hstoring]; trivial)
      rw [hfree] at hholder
      cases hholder
  | fresh hstage => cases hinside hstage trivial
  | discover hstage => cases hinside hstage trivial
  | succeed hstage => cases hinside hstage trivial
  | fail hstage => cases hinside hstage trivial
  | @store i stored hstage =>
      cases hinside hstage trivial
      have hi : i = j := hlocked.eq (by rw [hstage]; trivial) (by rw [hstoring]; trivial)
      subst hi
      exact .known_move rfl hone (fun k hk => (hearly k hk).late fun h => hk (hlocked.eq h
        (by rw [hstage]; trivial))) trivial
  | leave hstage => cases hinside hstage trivial
  | giveUp hstage => cases hinside hstage trivial
  | answer hstage =>
      have := hearly _ (hother hstage id)
      rw [hstage] at this
      cases this
  | withdraw hstage => exact .obtained_move hserved hone hstoring hearly (hother hstage id) trivial
  | abandon hstage => cases hinside hstage trivial
  | elsewhere hkinds =>
      refine .obtained j served ((World.served_of_kinds_eq hkinds).trans hserved) ?_ hstoring hearly
      rw [successes_concat, hone]
      rfl

/-- Once a list is known, it stays the only one while it is fresh, and it is the one that is
answered from. -/
theorem phase_of_known (h : Step source callers s note next) (hfresh : isFresh s.world = true)
    (hserved : s.world.served = some served) (hone : successes history = [served])
    (hlate : ∀ i, (s.stage i).Late) : Phase (history ++ [note]) next := by
  have hexcluded {i : ι} {stage : Stage} (hstage : s.stage i = stage) : stage.Late :=
    hstage ▸ hlate i
  have hothers {i : ι} (j : ι) (_ : j ≠ i) : (s.stage j).Late := hlate j
  cases h with
  | hit => exact .known_move hserved hone hothers trivial
  | miss => exact .known_move hserved hone hothers trivial
  | enter => exact .known_move hserved hone hothers trivial
  | fresh => exact .known_move hserved hone hothers trivial
  | discover _ hold =>
      rw [hfresh] at hold
      cases hold
  | succeed hstage => exact (hexcluded hstage).elim
  | fail hstage => exact (hexcluded hstage).elim
  | store hstage => exact (hexcluded hstage).elim
  | leave => exact .known_move hserved hone hothers trivial
  | giveUp => exact .known_move hserved hone hothers trivial
  | answer => exact .known_move hserved hone hothers trivial
  | withdraw => exact .known_move hserved hone hothers trivial
  | abandon => exact .known_move hserved hone hothers trivial
  | elsewhere hkinds =>
      refine .known served ((World.served_of_kinds_eq hkinds).trans hserved) ?_ hlate
      rw [successes_concat, hone]
      rfl

end Step

/-! ## What a history says -/

namespace Step

variable {i j : ι} {stage : Stage} {e : ApiError} {found : Option ResourceId}

/-- The caller of a note goes on to the stage that is noted, and the others stay where they are. -/
theorem stage_eq (h : Step source callers s (some (i, stage)) next) :
    next.stage = Function.update s.stage i stage := by
  cases h <;> rfl

/-- The caller of a note is at the stage that is noted. -/
theorem stage_self (h : Step source callers s (some (i, stage)) next) : next.stage i = stage := by
  rw [h.stage_eq]
  exact Function.update_self ..

/-- A caller is where they were before a step, or at the stage that is noted for them. -/
theorem stage_cases (h : Step source callers s note next) (i : ι) :
    next.stage i = s.stage i ∨ note = some (i, next.stage i) := by
  rcases note with _ | ⟨j, stage⟩
  · cases h with
    | elsewhere => exact .inl rfl
  · rw [h.stage_eq]
    by_cases hi : i = j
    · subst hi
      exact .inr (by rw [Function.update_self])
    · exact .inl (Function.update_of_ne hi ..)

/-- Who starts to ask is inside, and nothing fresh is known. -/
theorem of_discovering (h : Step source callers s (some (i, .discovering)) next) :
    s.stage i = .entered ∧ isFresh s.world = false := by
  cases h with
  | discover hstage hold => exact ⟨hstage, hold⟩

/-- Who asks goes on with a list, or without success. -/
theorem from_discovering (h : Step source callers s (some (i, stage)) next)
    (hasking : s.stage i = .discovering) : stage.Fails ∨ ∃ served, stage = .storing served := by
  cases h with
  | succeed => exact .inr ⟨_, rfl⟩
  | fail => exact .inl trivial
  | abandon => exact .inl trivial
  | _ hstage =>
    rw [hasking] at hstage
    cases hstage

/-- A failure leaves what is remembered as it is. -/
theorem kinds_of_fails (h : Step source callers s (some (i, stage)) next) (hfails : stage.Fails) :
    next.world.kinds = s.world.kinds := by
  cases h with
  | fail hstage hrun =>
      have hkept := (callers i).ctx.run_keeps_kinds source.keeps_kinds s.world
      rw [hrun] at hkept
      exact hkept
  | abandon => rfl
  | _ => exact hfails.elim

/-- Who failed to get a list goes on to report the error. -/
theorem from_leaving (h : Step source callers s (some (i, stage)) next)
    (hleaving : s.stage i = .leaving (.error e)) : stage = .failed e := by
  cases h with
  | giveUp hstage =>
    rw [hleaving] at hstage
    cases hstage
    rfl
  | _ hstage =>
    rw [hleaving] at hstage
    cases hstage

/-- Who reported an error is done. -/
theorem not_from_failed (h : Step source callers s (some (i, stage)) next) :
    s.stage i ≠ .failed e := by
  intro hfailed
  cases h with
  | _ hstage =>
    rw [hfailed] at hstage
    cases hstage

/-- The error that is reported is that of the caller's own failure. -/
theorem of_failed (h : Step source callers s (some (i, .failed e)) next) :
    s.stage i = .leaving (.error e) := by
  cases h with
  | giveUp hstage => exact hstage

/-- An answer is read from what is known; without the lock having been held it was found at once. -/
theorem of_answered (h : Step source callers s (some (i, .answered found)) next) :
    found = (callers i).question.lookup (Mapper.known s.world) ∧
      (s.stage i = .reading ∨ found ≠ none) := by
  cases h with
  | hit _ hfound => exact ⟨hfound.symm, .inr fun h => nomatch h⟩
  | answer hstage hfound => exact ⟨hfound.symm, .inl hstage⟩

end Step

/-- What a history says of the callers and of what is known. -/
structure Consistent (callers : ι → Caller) (history : List (Note ι)) (s : System ι) :
    Prop where
  locked : Locked s
  phase : Phase history s
  /-- Every stage but the first was noted. -/
  reached : ∀ i, s.stage i = .arriving ∨ some (i, s.stage i) ∈ history
  /-- Whoever started to ask still asks, or failed, or got a list. -/
  ended : ∀ i, some (i, .discovering) ∈ history → s.stage i = .discovering ∨
    (∃ stage : Stage, stage.Fails ∧ some (i, stage) ∈ history) ∨
    ∃ served, some (i, .storing served) ∈ history
  answers : ∀ i found, some (i, .answered found) ∈ history →
    ∃ served, successes history = [served] ∧ found = (callers i).question.lookup served

namespace Phase

variable {history : List (Note ι)}

omit [DecidableEq ι] in
/-- At most one list was given. -/
theorem length_successes_le (h : Phase history s) : (successes history).length ≤ 1 := by
  cases h with
  | unknown _ hnone => rw [hnone]; exact Nat.zero_le 1
  | obtained _ _ _ hone => rw [hone]; exact Nat.le_refl 1
  | known _ _ hone => rw [hone]; exact Nat.le_refl 1

omit [DecidableEq ι] in
/-- The list that was given is the only one that ever is. -/
theorem successes_eq (h : Phase (history ++ [note]) s) {served : List ResourceId}
    (hone : successes history = [served]) : successes (history ++ [note]) = [served] := by
  have hlength := h.length_successes_le
  rw [successes_concat, hone] at hlength ⊢
  cases hnote : success? note with
  | none => rfl
  | some other =>
      rw [hnote] at hlength
      exact absurd hlength (Nat.not_succ_le_self 1)

end Phase

namespace Consistent

variable {history : List (Note ι)} {i : ι}

omit [DecidableEq ι] in
/-- At first nothing is known, and no one is inside. -/
theorem start (callers : ι → Caller) {w : World} (hnew : w.served = none) :
    Consistent callers [] { world := w } where
  locked _ := iff_of_false id fun h => nomatch h
  phase := .unknown hnew rfl fun _ => trivial
  reached _ := .inl rfl
  ended _ h := absurd h List.not_mem_nil
  answers _ _ h := absurd h List.not_mem_nil

/-- When a caller starts to ask, no list was given yet, and whoever asked before failed. -/
theorem before_discovering (h : Consistent callers history s)
    (hstep : FreshStep source callers s (some (i, .discovering)) next) :
    successes history = [] ∧ ∀ j, some (j, .discovering) ∈ history →
      ∃ stage : Stage, stage.Fails ∧ some (j, stage) ∈ history := by
  obtain ⟨hstage, hold⟩ := hstep.step.of_discovering
  have hinside : (s.stage i).Inside := by rw [hstage]; trivial
  have hnone : successes history = [] := by
    cases h.phase with
    | unknown _ hnone => exact hnone
    | obtained j served _ _ hstoring =>
        have hi : i = j := h.locked.eq hinside (by rw [hstoring]; trivial)
        rw [hi, hstoring] at hstage
        cases hstage
    | known served hserved =>
        rw [hstep.fresh_of_known hserved] at hold
        cases hold
  refine ⟨hnone, fun j hj => ?_⟩
  rcases h.ended j hj with hasking | hfailed | ⟨served, hgiven⟩
  · have hi : i = j := h.locked.eq hinside (by rw [hasking]; trivial)
    rw [hi, hasking] at hstage
    cases hstage
  · exact hfailed
  · have hmem : served ∈ successes history := List.mem_filterMap.mpr ⟨_, hgiven, rfl⟩
    rw [hnone] at hmem
    cases hmem

/-- A caller answers from the list that was given. -/
theorem before_answered (h : Consistent callers history s) {found : Option ResourceId}
    (hstep : Step source callers s (some (i, .answered found)) next) :
    ∃ served, successes history = [served] ∧ found = (callers i).question.lookup served := by
  obtain ⟨hfound, hhow⟩ := hstep.of_answered
  -- as long as nothing is known, nothing is found, and no one is that far
  have hknown (hunknown : s.world.served = none) : s.stage i = .reading := by
    refine hhow.resolve_right fun hsome => hsome ?_
    rw [hfound, Question.lookup_of_unknown _ hunknown]
  cases h.phase with
  | unknown hserved _ hearly =>
      have hi := hearly i
      rw [hknown hserved] at hi
      cases hi
  | obtained j served hserved _ hstoring hearly =>
      have hi := hearly i (by rintro rfl; rw [hknown hserved] at hstoring; cases hstoring)
      rw [hknown hserved] at hi
      cases hi
  | known served hserved hone =>
      refine ⟨served, hone, ?_⟩
      rw [hfound, Mapper.known, hserved]
      rfl

/-- Every step keeps what a history says. -/
theorem step (h : Consistent callers history s) (hnext : FreshStep source callers s note next) :
    Consistent callers (history ++ [note]) next := by
  have hstep := hnext.step
  have hphase : Phase (history ++ [note]) next := by
    cases h.phase with
    | unknown hserved hnone hearly => exact hstep.phase_of_unknown hserved hnone hearly
    | obtained j served hserved hone hstoring hearly =>
        exact hstep.phase_of_obtained h.locked hserved hone hstoring hearly
    | known served hserved hone hlate =>
        exact hstep.phase_of_known (hnext.fresh_of_known hserved) hserved hone hlate
  have hold {entry : Note ι} (hentry : entry ∈ history) : entry ∈ history ++ [note] :=
    List.mem_append_left _ hentry
  refine ⟨hstep.locked h.locked, hphase, fun i => ?_, fun i hi => ?_, fun i found hi => ?_⟩
  · rcases hstep.stage_cases i with hsame | hnote
    · rw [hsame]
      exact (h.reached i).imp_right hold
    · exact .inr (hnote ▸ List.mem_append_right _ List.mem_cons_self)
  · rcases List.mem_append.mp hi with hi | hi
    · rcases h.ended i hi with hasking | ⟨stage, hfails, hmem⟩ | ⟨served, hmem⟩
      · rcases hstep.stage_cases i with hsame | hnote
        · exact .inl (hsame.trans hasking)
        · have hmem : some (i, next.stage i) ∈ history ++ [note] :=
            hnote ▸ List.mem_append_right _ List.mem_cons_self
          rw [hnote] at hstep
          rcases hstep.from_discovering hasking with hfails | ⟨served, hserved⟩
          · exact .inr (.inl ⟨_, hfails, hmem⟩)
          · exact .inr (.inr ⟨served, hserved ▸ hmem⟩)
      · exact .inr (.inl ⟨stage, hfails, hold hmem⟩)
      · exact .inr (.inr ⟨served, hold hmem⟩)
    · rw [← List.mem_singleton.mp hi] at hstep
      exact .inl hstep.stage_self
  · rcases List.mem_append.mp hi with hi | hi
    · obtain ⟨served, hone, hfound⟩ := h.answers i found hi
      exact ⟨served, hphase.successes_eq hone, hfound⟩
    · rw [← List.mem_singleton.mp hi] at hstep
      obtain ⟨served, hone, hfound⟩ := h.before_answered hstep
      exact ⟨served, hphase.successes_eq hone, hfound⟩

/-- Every run is consistent with its history. -/
theorem of_run {w : World} (hnew : w.served = none) {final : System ι}
    (hrun : Run (FreshStep source callers) { world := w } history final) :
    Consistent callers history final :=
  hrun.invariant (start callers hnew) fun _ _ _ _ h hstep => h.step hstep

end Consistent

/-! ## Every run -/

variable {i : ι}

/-- What a run says of asking for the kinds, and of the answers. -/
structure AsksOnce (source : Source) (callers : ι → Caller) (w : World) (history : List (Note ι))
    (final : System ι) : Prop where
  /-- At most one list is given. -/
  once : (successes history).length ≤ 1
  /-- What is known is the list that was given, or nothing. -/
  known : final.world.served = none ∨
    ∃ served, final.world.served = some served ∧ successes history = [served]
  /-- The kinds are asked for again only when all who asked before failed. -/
  retried : ∀ before i after, history = before ++ some (i, .discovering) :: after →
    successes before = [] ∧ ∀ j, some (j, .discovering) ∈ before →
      ∃ stage : Stage, stage.Fails ∧ some (j, stage) ∈ before
  /-- A failure, and a caller who goes away, leave what is remembered as it is. -/
  unchanged : ∀ before i stage after, history = before ++ some (i, stage) :: after →
    stage.Fails → ∃ s next, Run (FreshStep source callers) { world := w } before s ∧
      FreshStep source callers s (some (i, stage)) next ∧
      Run (FreshStep source callers) next after final ∧ next.world.kinds = s.world.kinds
  /-- The error of a failure is reported by the caller who asked, or is about to be. -/
  reported : ∀ i e, some (i, .leaving (.error e)) ∈ history → final.stage i = .failed e ∨
    final.stage i = .leaving (.error e) ∧
      ∃ next, Step source callers final (some (i, .failed e)) next
  /-- An error that a caller reports is that of the caller's own failure. -/
  own : ∀ i e, some (i, .failed e) ∈ history → some (i, .leaving (.error e)) ∈ history
  /-- Once a list is given, the kinds are not asked for any more. -/
  last : ∀ before i served after, history = before ++ some (i, .storing served) :: after →
    ∀ j, some (j, .discovering) ∉ after
  /-- Every answer is that of the list that was given. -/
  answers : ∀ i found, some (i, .answered found) ∈ history →
    ∃ served, successes history = [served] ∧ found = (callers i).question.lookup served

/-- The error of a failure stays with the caller until it is reported. -/
theorem stage_of_failure {history : List (Note ι)} {final : System ι} {e : ApiError}
    (hrun : Run (FreshStep source callers) s history final) (hstage : s.stage i = .leaving (.error e)) :
    final.stage i = .failed e ∨ final.stage i = .leaving (.error e) := by
  refine hrun.lasts (P := fun s => s.stage i = .failed e ∨ s.stage i = .leaving (.error e))
    (.inr hstage) fun s note next h hnext => ?_
  have hstep := hnext.step
  rcases hstep.stage_cases i with hsame | rfl
  · rwa [hsame]
  · rcases h with hfailed | hleaving
    · exact absurd hfailed hstep.not_from_failed
    · exact .inl (hstep.from_leaving hleaving)

/-- The kinds are asked for once. In every run of callers that share a mapper which knows nothing at
first, as long as what it knows stays fresh, one list is given at most, and the kinds are asked for
again only after failures. A failure, or a caller who goes away, leaves what is remembered as it is,
and its error is reported by the caller who asked. Every answer, that something is served or that it
is not, is that of the one list. -/
theorem discovers_once (source : Source) (callers : ι → Caller) {w : World}
    (hnew : w.served = none) {history : List (Note ι)} {final : System ι}
    (hrun : Run (FreshStep source callers) { world := w } history final) :
    AsksOnce source callers w history final := by
  have hfinal := Consistent.of_run hnew hrun
  have hretried (before : List (Note ι)) (i : ι) (after : List (Note ι))
      (h : history = before ++ some (i, .discovering) :: after) :
      successes before = [] ∧ ∀ j, some (j, .discovering) ∈ before →
        ∃ stage : Stage, stage.Fails ∧ some (j, stage) ∈ before := by
    subst h
    obtain ⟨s, next, hbefore, hstep, -⟩ := hrun.around
    exact (Consistent.of_run hnew hbefore).before_discovering hstep
  refine ⟨hfinal.phase.length_successes_le, ?_, hretried, ?_, ?_, ?_, ?_, hfinal.answers⟩
  · cases hfinal.phase with
    | unknown hserved => exact .inl hserved
    | obtained _ _ hserved => exact .inl hserved
    | known served hserved hone => exact .inr ⟨served, hserved, hone⟩
  · rintro before i stage after rfl hfails
    obtain ⟨s, next, hbefore, hstep, hafter⟩ := hrun.around
    exact ⟨s, next, hbefore, hstep, hafter, hstep.step.kinds_of_fails hfails⟩
  · intro i e hmem
    obtain ⟨before, after, rfl⟩ := List.append_of_mem hmem
    obtain ⟨s, next, -, hstep, hafter⟩ := hrun.around
    exact (stage_of_failure hafter hstep.step.stage_self).imp_right fun h => ⟨h, _, .giveUp h⟩
  · intro i e hmem
    obtain ⟨before, after, rfl⟩ := List.append_of_mem hmem
    obtain ⟨s, next, hbefore, hstep, -⟩ := hrun.around
    have hstage := hstep.step.of_failed
    rcases (Consistent.of_run hnew hbefore).reached i with harriving | hreached
    · rw [harriving] at hstage
      cases hstage
    · exact List.mem_append_left _ (hstage ▸ hreached)
  · rintro before i served after rfl j hmem
    obtain ⟨middle, rest, rfl⟩ := List.append_of_mem hmem
    have hnone := (hretried (before ++ some (i, .storing served) :: middle) j rest (by simp)).1
    have hgiven : served ∈ successes (before ++ some (i, .storing served) :: middle) :=
      List.mem_filterMap.mpr ⟨_, List.mem_append_right _ List.mem_cons_self, rfl⟩
    rw [hnone] at hgiven
    cases hgiven

/-- The deployments of a cluster. -/
def deployments : ResourceId := ⟨"apps", "v1", "deployments", "Deployment", .namespaced⟩

/-- A source that fails when it is asked first. -/
def shaky : Source := .scripted [.error (.internal "unreachable"), .ok [deployments]] 5

/-- Two callers who look for deployments, each in a way of their own. -/
def pair : Bool → Caller
  | false => { ctx := {}, question := .resolve deployments.gvk }
  | true => { ctx := {}, question := .resolveKind "apps" "Deployment" }

/-- Both callers find nothing; the first asks and fails, and the second, who waited, asks again. -/
def recovery : List (Note Bool) :=
  [some (false, .waiting), some (true, .waiting), some (false, .entered),
    some (false, .discovering), some (false, .leaving (.error (.internal "unreachable"))),
    some (false, .failed (.internal "unreachable")), some (true, .entered),
    some (true, .discovering), some (true, .storing [deployments]),
    some (true, .leaving (.ok ())), some (true, .reading),
    some (true, .answered (some deployments))]

/-- A world in which nothing is known and time goes by. -/
def morning : World := { realTime := true }

/-- The failure of one caller is made good by the other, in a run of the two, in which the list that
is given stays fresh. -/
theorem recovery_asks_once :
    ∃ final, Run (FreshStep shaky pair) { world := morning } recovery final ∧
      AsksOnce shaky pair morning recovery final := by
  have hrun : ∃ final, Run (FreshStep shaky pair) { world := morning } recovery final := by
    have hstart : Run (FreshStep shaky pair) { world := morning } [] { world := morning } := .start
    have hmissed := (hstart.step (.of_unknown rfl (.miss (i := false) rfl rfl))).step
      (.of_unknown rfl (.miss (i := true) rfl rfl))
    have hasked := (hmissed.step (.of_unknown rfl (.enter (i := false) rfl rfl))).step
      (.of_unknown rfl (.discover (i := false) rfl rfl))
    have hfailed := (hasked.step (.of_unknown rfl (.fail (i := false) rfl rfl))).step
      (.of_unknown rfl (.giveUp (i := false) rfl))
    have hagain := (hfailed.step (.of_unknown rfl (.enter (i := true) rfl rfl))).step
      (.of_unknown rfl (.discover (i := true) rfl rfl))
    have hstored := (hagain.step (.of_unknown rfl (.succeed (i := true) rfl rfl))).step
      (.of_unknown rfl (.store (i := true) rfl))
    -- from here on the list is known, and no time has gone by since it was
    exact ⟨_, (hstored.step ⟨.leave (i := true) rfl, fun _ => rfl⟩).step
      ⟨.answer (i := true) rfl rfl, fun _ => rfl⟩⟩
  obtain ⟨final, hrun⟩ := hrun
  exact ⟨final, hrun, discovers_once shaky pair rfl hrun⟩

end VirtualApi.Mapper

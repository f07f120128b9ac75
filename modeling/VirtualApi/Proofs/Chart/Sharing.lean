import Mathlib.Logic.Function.Basic
import VirtualApi.Proofs.Chart.Confinement
import VirtualApi.Proofs.Kind.Repeat
import VirtualApi.Proofs.Request.Interleaving
import VirtualApi.Proofs.Yaml.Reading

/-!
# Look-ups that share a registry of charts

Charts are kept for all requests, and requests run side by side. Here any number of look-ups go on
at the same time, each in steps: a look at what is kept, the search in the files, and the keeping of
what was found. Between any two steps the others go on, and the files may change. `Step` lists the
steps, and `exists_run_alone` says that a look-up which no one interrupts does what
`ChartRegistry.chartFor` does. The main theorem, `racing_lookups_agree`, says for every run that all
answers for a path are the one chart that was kept first.
-/

namespace VirtualApi.ChartRegistry

/-- A look-up of the chart of a group and kind. -/
structure Lookup where
  group : String
  kind : String

/-- The path that a chart is looked up under. -/
def Lookup.path (lookup : Lookup) : String := chartPath lookup.group lookup.kind

/-- How far a look-up is. -/
inductive Stage where
  /-- Before the look at what is kept. -/
  | arriving
  /-- Nothing was kept, and the files are to be searched. -/
  | fetching
  /-- This chart was found in the files, or comes with the library, and is to be kept. -/
  | keeping (chart : EditorChart)
  | answered (chart : EditorChart)
  | failed (e : ApiError)

/-- The result of a look-up, once there is one. -/
def Stage.result? : Stage → Option (ApiResult EditorChart)
  | .answered chart => some (.ok chart)
  | .failed e => some (.error e)
  | _ => none

/-- The world, and how far each look-up is. -/
structure System (ι : Type) where
  world : World
  stage : ι → Stage := fun _ => .arriving

/-- A look-up reached a stage; nothing is noted where something happened elsewhere. -/
abbrev Note (ι : Type) := Option (ι × Stage)

variable {ι : Type} [DecidableEq ι]

/-- A look-up goes on to a stage. -/
def System.move (s : System ι) (i : ι) (stage : Stage) : System ι :=
  { s with stage := Function.update s.stage i stage }

/-- What can happen next. The search reads the file and writes a chart that comes with the library
in one step: what may happen to the files in between may as well happen after it. A look-up that is
given up takes no more steps; it holds nothing that others wait for. -/
inductive Step (registry : ChartRegistry) (lookups : ι → Lookup) :
    System ι → Note ι → System ι → Prop where
  | hit {s : System ι} {i : ι} {chart : EditorChart} (hstage : s.stage i = .arriving)
      (hkept : kept? (lookups i).path s.world = some chart) :
      Step registry lookups s (some (i, .answered chart)) (s.move i (.answered chart))
  | miss {s : System ι} {i : ι} (hstage : s.stage i = .arriving)
      (hkept : kept? (lookups i).path s.world = none) :
      Step registry lookups s (some (i, .fetching)) (s.move i .fetching)
  | find {s : System ι} {i : ι} {chart : EditorChart} {files : FileTree}
      (hstage : s.stage i = .fetching)
      (hfetch : registry.fetch s.world.files (lookups i).group (lookups i).kind =
        (.ok chart, files)) :
      Step registry lookups s (some (i, .keeping chart))
        ({ s with world := { s.world with files := files } }.move i (.keeping chart))
  | fail {s : System ι} {i : ι} {e : ApiError} {files : FileTree} (hstage : s.stage i = .fetching)
      (hfetch : registry.fetch s.world.files (lookups i).group (lookups i).kind =
        (.error e, files)) :
      Step registry lookups s (some (i, .failed e))
        ({ s with world := { s.world with files := files } }.move i (.failed e))
  | keep {s : System ι} {i : ι} {chart first : EditorChart} {w : World}
      (hstage : s.stage i = .keeping chart)
      (hkeep : keep (lookups i).path chart s.world = (first, w)) :
      Step registry lookups s (some (i, .answered first))
        ({ s with world := w }.move i (.answered first))
  | elsewhere {s : System ι} {w : World} (hcharts : w.charts = s.world.charts) :
      Step registry lookups s none { s with world := w }

namespace System

variable {s : System ι} {i j : ι} {stage : Stage}

/-- A look-up is where it goes. -/
@[simp] theorem move_stage_self : (s.move i stage).stage i = stage := Function.update_self ..

/-- The others stay where they are. -/
@[simp] theorem move_stage_of_ne (h : j ≠ i) : (s.move i stage).stage j = s.stage j :=
  Function.update_of_ne h ..

/-- The world stays as it is when a look-up goes on. -/
@[simp] theorem move_world : (s.move i stage).world = s.world := rfl

/-- A look-up that goes on is the only one that may be elsewhere than before. -/
theorem move_stage_cases (s : System ι) (i j : ι) (stage : Stage) :
    (s.move i stage).stage j = s.stage j ∨
      some (i, stage) = some (j, (s.move i stage).stage j) := by
  by_cases h : j = i
  · subst h
    rw [move_stage_self]
    exact .inr rfl
  · exact .inl (move_stage_of_ne h)

end System

variable {registry : ChartRegistry} {lookups : ι → Lookup} {s next : System ι} {note : Note ι}
  {i j : ι} {stage : Stage} {chart : EditorChart}

/-! ## A look-up alone -/

/-- A look-up that no one interrupts finds what `chartFor` finds, and leaves the same world. -/
theorem exists_run_alone (registry : ChartRegistry) (lookups : ι → Lookup)
    (hstage : s.stage i = .arriving) :
    ∃ (stages : List Stage) (final : System ι),
      Run (Step registry lookups) s (stages.map fun stage => some (i, stage)) final ∧
      final.world = (registry.chartFor (lookups i).group (lookups i).kind s.world).2 ∧
      (final.stage i).result? =
        some (registry.chartFor (lookups i).group (lookups i).kind s.world).1 := by
  unfold chartFor
  dsimp only
  cases hkept : kept? (chartPath (lookups i).group (lookups i).kind) s.world with
  | some chart =>
      refine ⟨[.answered chart], _, .step .start (.hit hstage hkept), rfl, ?_⟩
      rw [System.move_stage_self]
      rfl
  | none =>
      have hmissed : Run (Step registry lookups) s [some (i, .fetching)] (s.move i .fetching) :=
        .step .start (.miss hstage hkept)
      rcases hfetch : registry.fetch s.world.files (lookups i).group (lookups i).kind with
        ⟨e | chart, files⟩
      · refine ⟨[.fetching, .failed e], _,
          hmissed.step (.fail System.move_stage_self hfetch), rfl, ?_⟩
        rw [System.move_stage_self]
        rfl
      · have hfound := hmissed.step (.find System.move_stage_self hfetch)
        refine ⟨[.fetching, .keeping chart, _], _,
          hfound.step (.keep System.move_stage_self rfl), rfl, ?_⟩
        rw [System.move_stage_self]
        rfl

/-! ## What a step keeps -/

namespace Step

/-- A step leaves each look-up where it is, or notes where it is. -/
theorem stage_cases (h : Step registry lookups s note next) (j : ι) :
    next.stage j = s.stage j ∨ note = some (j, next.stage j) := by
  cases h with
  | elsewhere _ => exact .inl rfl
  | _ => exact System.move_stage_cases _ _ _ _

/-- A chart that is kept stays. -/
theorem keeps (h : Step registry lookups s note next) : s.world.Keeps next.world := by
  cases h with
  | hit | miss => exact .refl _
  | find | fail => exact .of_charts_eq rfl
  | @keep i chart first w _ hkeep =>
      have hw := keep_keeps (lookups i).path chart s.world
      rw [hkeep] at hw
      exact hw
  | elsewhere hcharts => exact .of_charts_eq hcharts

/-- The chart of an answer is kept. -/
theorem kept_of_answered (h : Step registry lookups s (some (i, .answered chart)) next) :
    kept? (lookups i).path next.world = some chart := by
  cases h with
  | hit _ hkept => exact hkept
  | @keep _ found _ w _ hkeep =>
      have hw := kept_keep (lookups i).path found s.world
      rw [hkeep] at hw
      exact hw

/-- Once a chart is kept, the one thing a look-up that arrives can do is to answer with it. -/
theorem iff_of_kept (hstage : s.stage i = .arriving)
    (hkept : kept? (lookups i).path s.world = some chart) :
    Step registry lookups s (some (i, stage)) next ↔
      stage = .answered chart ∧ next = s.move i (.answered chart) := by
  constructor
  · intro h
    cases h with
    | hit _ hother =>
        rw [hkept] at hother
        cases hother
        exact ⟨rfl, rfl⟩
    | miss _ hnone =>
        rw [hkept] at hnone
        cases hnone
    | find hfetching | fail hfetching =>
        rw [hstage] at hfetching
        cases hfetching
    | keep hkeeping =>
        rw [hstage] at hkeeping
        cases hkeeping
  · rintro ⟨rfl, rfl⟩
    exact .hit hstage hkept

/-- A look-up that answered is over. -/
theorem not_from_answered (h : Step registry lookups s (some (i, stage)) next) :
    s.stage i ≠ .answered chart := by
  intro hanswered
  cases h with
  | _ hstage =>
    rw [hanswered] at hstage
    cases hstage

/-- A search that fails keeps nothing. -/
theorem charts_of_failed {e : ApiError} (h : Step registry lookups s (some (i, .failed e)) next) :
    (registry.fetch s.world.files (lookups i).group (lookups i).kind).1 = .error e ∧
      next.world.charts = s.world.charts := by
  cases h with
  | fail _ hfetch => exact ⟨by rw [hfetch], rfl⟩

end Step

/-! ## Every run -/

/-- What a history says of the look-ups: each one that is not where it began was noted, and the
charts of the answers are kept. -/
structure Consistent (lookups : ι → Lookup) (history : List (Note ι)) (s : System ι) : Prop where
  reached : ∀ i, s.stage i = .arriving ∨ some (i, s.stage i) ∈ history
  kept : ∀ i chart, some (i, .answered chart) ∈ history →
    kept? (lookups i).path s.world = some chart

namespace Consistent

variable {history : List (Note ι)}

/-- Every step keeps what a history says. -/
theorem step (h : Consistent lookups history s) (hstep : Step registry lookups s note next) :
    Consistent lookups (history ++ [note]) next := by
  constructor
  · intro i
    rcases hstep.stage_cases i with hsame | hnote
    · rw [hsame]
      exact (h.reached i).imp_right (List.mem_append_left _)
    · exact .inr (hnote ▸ List.mem_append_right _ List.mem_cons_self)
  · intro i chart hanswer
    rcases List.mem_append.mp hanswer with hbefore | hnow
    · exact hstep.keeps _ _ (h.kept i chart hbefore)
    · rw [← List.mem_singleton.mp hnow] at hstep
      exact hstep.kept_of_answered

/-- Every run is consistent with its history. -/
theorem of_run {w : World} {final : System ι}
    (hrun : Run (Step registry lookups) { world := w } history final) :
    Consistent lookups history final :=
  hrun.invariant ⟨fun _ => .inl rfl, fun _ _ h => absurd h List.not_mem_nil⟩
    fun _ _ _ _ h hstep => h.step hstep

end Consistent

/-- What a look-up can come to that arrives after a chart is kept for its path: it still arrives, or
it answered with that chart, and nothing else of it is noted. -/
structure Served (j : ι) (chart : EditorChart) (history : List (Note ι)) (s : System ι) : Prop where
  stage : s.stage j = .arriving ∨ s.stage j = .answered chart
  notes : ∀ stage, some (j, stage) ∈ history → stage = .answered chart

/-- A look-up that arrives where a chart is kept is served with it, however the run goes on. -/
theorem served_of_kept {history : List (Note ι)} {final : System ι}
    (hrun : Run (Step registry lookups) s history final)
    (hstage : s.stage j = .arriving ∨ s.stage j = .answered chart)
    (hkept : kept? (lookups j).path s.world = some chart) :
    kept? (lookups j).path final.world = some chart ∧ Served j chart history final := by
  refine hrun.invariant (P := fun history s =>
      kept? (lookups j).path s.world = some chart ∧ Served j chart history s)
    ⟨hkept, hstage, fun _ h => absurd h List.not_mem_nil⟩ ?_
  rintro history s note next ⟨hkept, hserved⟩ hstep
  refine ⟨hstep.keeps _ _ hkept, ?_⟩
  -- a step of this look-up can only be its answer
  have hown (stage : Stage) (hnote : note = some (j, stage)) : stage = .answered chart := by
    rw [hnote] at hstep
    rcases hserved.stage with harriving | hanswered
    · exact ((Step.iff_of_kept harriving hkept).mp hstep).1
    · exact absurd hanswered hstep.not_from_answered
  constructor
  · rcases hstep.stage_cases j with hsame | hnote
    · rw [hsame]
      exact hserved.stage
    · exact .inr (hown _ hnote)
  · intro stage hmem
    rcases List.mem_append.mp hmem with hbefore | hnow
    · exact hserved.notes stage hbefore
    · exact hown stage (List.mem_singleton.mp hnow).symm

/-- What a run says of the charts that look-ups answer with. -/
structure Agreement (registry : ChartRegistry) (lookups : ι → Lookup) (w : World)
    (history : List (Note ι)) (final : System ι) : Prop where
  /-- Answers for one path are the same chart. -/
  agree : ∀ i j chart other, (lookups i).path = (lookups j).path →
    some (i, .answered chart) ∈ history → some (j, .answered other) ∈ history → chart = other
  /-- A look-up that arrives after an answer for its path never searches the files: it answers with
  that chart, or still arrives, and then that answer is the one step it can take, which changes
  nothing. -/
  later : ∀ before i chart after, history = before ++ some (i, .answered chart) :: after →
    ∀ j, (lookups j).path = (lookups i).path → (∀ stage, some (j, stage) ∉ before) →
      (∀ stage, some (j, stage) ∈ after → stage = .answered chart) ∧
      (final.stage j = .answered chart ∨ final.stage j = .arriving ∧
        ∀ stage next, Step registry lookups final (some (j, stage)) next ↔
          stage = .answered chart ∧ next = final.move j (.answered chart))
  /-- A look-up fails only with the error of its own search, and keeps nothing. -/
  failed : ∀ before i e after, history = before ++ some (i, .failed e) :: after →
    ∃ s next, Run (Step registry lookups) { world := w } before s ∧
      Step registry lookups s (some (i, .failed e)) next ∧
      Run (Step registry lookups) next after final ∧
      (registry.fetch s.world.files (lookups i).group (lookups i).kind).1 = .error e ∧
      next.world.charts = s.world.charts

/-- Racing look-ups agree. However the steps of any number of look-ups interleave, and however the
files change in between, all that succeed for a path answer with the same chart. Once one of them
did, every look-up that comes later answers with it at once, without a search in the files. A search
that fails keeps nothing. -/
theorem racing_lookups_agree (registry : ChartRegistry) (lookups : ι → Lookup) {w : World}
    {history : List (Note ι)} {final : System ι}
    (hrun : Run (Step registry lookups) { world := w } history final) :
    Agreement registry lookups w history final := by
  have hfinal := Consistent.of_run hrun
  refine ⟨fun i j chart other hpath hanswer hother => ?_, ?_, ?_⟩
  · have hkept := hfinal.kept i chart hanswer
    rw [hpath, hfinal.kept j other hother] at hkept
    exact (Option.some.inj hkept).symm
  · rintro before i chart after rfl j hpath hnew
    obtain ⟨s, next, hbefore, hstep, hafter⟩ := hrun.around
    have hkept := hstep.kept_of_answered
    rw [← hpath] at hkept
    -- the look-up still arrives, unless the answer is its own
    have hstage : next.stage j = .arriving ∨ next.stage j = .answered chart := by
      rcases hstep.stage_cases j with hsame | hnote
      · exact .inl (hsame.trans (((Consistent.of_run hbefore).reached j).resolve_right (hnew _)))
      · have hsame : (i, Stage.answered chart) = (j, next.stage j) := Option.some.inj hnote
        exact .inr (congrArg Prod.snd hsame).symm
    obtain ⟨hlast, hserved⟩ := served_of_kept hafter hstage hkept
    exact ⟨hserved.notes, hserved.stage.symm.imp_right fun harriving =>
      ⟨harriving, fun stage next => Step.iff_of_kept harriving hlast⟩⟩
  · rintro before i e after rfl
    obtain ⟨s, next, hbefore, hstep, hafter⟩ := hrun.around
    exact ⟨s, next, hbefore, hstep, hafter, hstep.charts_of_failed⟩

/-! ## A race

Three look-ups for pods. Two of them find nothing kept; one finds the chart that comes with the
library, the other the chart of a file that was put there in between. -/

/-- The chart of pods that comes with the library. -/
def podChart : EditorChart :=
  { name := "pod-editor"
    resource := component "" "v1" "Pod"
    components := [component "" "v1" "ConfigMap", component "" "v1" "Secret"] }

/-- Another chart of pods. -/
def editedChart : EditorChart := { name := "edited", resource := component "" "v1" "Pod" }

/-- A text of the other chart. -/
def editedText : String := "\x7bname: edited, resource: \x7bversion: v1, kind: Pod\x7d\x7d"

/-- The node that the text is. -/
def editedNode : Yaml.Node :=
  .mapping [(.scalar "name" .plain none, .scalar "edited" .plain none),
    (.scalar "resource" .plain none, .mapping
      [(.scalar "version" .plain none, .scalar "v1" .plain none),
        (.scalar "kind" .plain none, .scalar "Pod" .plain none)] none)] none

/-- The value that the node has. -/
def editedValue : Json :=
  .object [("name", .str "edited"),
    ("resource", .object [("version", .str "v1"), ("kind", .str "Pod")])]

/-- The other chart is what its text decodes to. -/
theorem decode_editedText (origin : String) : decode origin editedText = .ok editedChart := by
  have hdocument : Yaml.Document.ofText? editedText.toList =
      some { root := some editedNode, events := 11 } := by with_unfolding_all rfl
  have hread (document : Yaml.Document) :
      Yaml.read? document Yaml.maxLevels EditorChart.shape editedNode = pure editedValue := by
    simp [editedNode, editedValue, EditorChart.shape, GroupVersionKind.shape, Yaml.maxLevels,
      Yaml.read_record, Yaml.read_text, Yaml.resolve?, Yaml.keyText?, Shape.field?, Shape.repeats]
  have hshape : EditorChart.shape.ofYaml? editedText.toList = some editedValue := by
    rw [Shape.ofYaml?, hdocument, Option.bind_eq_bind, Option.bind_some]
    dsimp only
    rw [hread]
    rfl
  have hchart : EditorChart.ofText? editedText = some editedChart := by
    rw [EditorChart.ofText?, hshape]
    rfl
  rw [decode, hchart]

/-- A root with nothing in it but the file of the other chart. -/
def editedFiles : FileTree :=
  { entries := [(["charts"], .directory), (["charts", "core"], .directory),
      (["charts", "core", "pod.yaml"], .file editedText)] }

/-- The chart in the file is the other one, under any spelling of the group and kind. -/
theorem fetch_editedFiles {group kind : String} (hpath : chartPath group kind = "core/pod.yaml") :
    (ChartRegistry.mk "charts").fetch editedFiles group kind = (.ok editedChart, editedFiles) := by
  have hfile : editedFiles.read ((ChartRegistry.mk "charts").filePath "core/pod.yaml") =
      .ok editedText := rfl
  unfold fetch
  rw [hpath]
  dsimp only
  rw [hfile]
  exact congrArg (·, editedFiles) (decode_editedText _)

/-- Three ways to ask for the chart of pods. -/
def podLookups : Fin 3 → Lookup
  | 0 => ⟨"", "Pod"⟩
  | 1 => ⟨"core", "POD"⟩
  | 2 => ⟨"core", "pod"⟩

/-- The first two search at the same time, and the third comes when both have answered. -/
def podRace : List (Note (Fin 3)) :=
  [some (0, .fetching), some (1, .fetching), some (0, .keeping podChart), none,
    some (1, .keeping editedChart), some (1, .answered editedChart),
    some (0, .answered editedChart), some (2, .answered editedChart)]

/-- The first look-up found the chart of the library, and answers like the second one, whose chart
was kept before; so does the third. -/
theorem pod_race_agrees :
    ∃ final, Run (Step ⟨"charts"⟩ podLookups) { world := { files := bareRoot } } podRace final ∧
      Agreement ⟨"charts"⟩ podLookups { files := bareRoot } podRace final := by
  have hrun : ∃ final,
      Run (Step ⟨"charts"⟩ podLookups) { world := { files := bareRoot } } podRace final := by
    have hstart : Run (Step ⟨"charts"⟩ podLookups) { world := { files := bareRoot } } []
      { world := { files := bareRoot } } := .start
    have hmissed := (hstart.step (.miss (i := 0) rfl rfl)).step (.miss (i := 1) rfl rfl)
    have hfound := hmissed.step (.find (i := 0) rfl rfl)
    have hput := hfound.step (.elsewhere (w := { files := editedFiles }) rfl)
    have hother := hput.step (.find (i := 1) rfl (fetch_editedFiles (by rfl)))
    have hkept := (hother.step (.keep (i := 1) rfl rfl)).step (.keep (i := 0) rfl rfl)
    exact ⟨_, hkept.step (.hit (i := 2) rfl rfl)⟩
  obtain ⟨final, hrun⟩ := hrun
  exact ⟨final, hrun, racing_lookups_agree ⟨"charts"⟩ podLookups hrun⟩

end VirtualApi.ChartRegistry

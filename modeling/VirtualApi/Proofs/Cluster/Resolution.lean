import VirtualApi.Proofs.Cluster.Memory
import VirtualApi.Proofs.Cluster.Served
import VirtualApi.Proofs.Text.Split

/-!
# What a kind is resolved to

A mapper finds the resource of a kind under the text that stands for the kind, and the last of the
resources under one text is found (`by_gvk_eq_some_iff`); a memory cluster compares the kinds
themselves, and the first resource of a kind is found (`find_kind_eq_ok_iff`). Slashes tell the
parts of a text apart only where there are none in the parts (`key_inj`). `resolve_finds_key` says
what a mapper answers for a kind, and `resolve_after_resolve_kind` what it answers for the kind of a
resource that it has found by group and kind.
-/

namespace VirtualApi

open Text

namespace GroupVersionKind

/-! ## The text of a kind -/

/-- No part of the kind has a slash. -/
structure SlashFree (gvk : GroupVersionKind) : Prop where
  group : '/' ∉ gvk.group.toList
  version : '/' ∉ gvk.version.toList
  kind : '/' ∉ gvk.kind.toList

/-- The parts that are written, which leave out the core group. -/
def parts (gvk : GroupVersionKind) : List String :=
  if gvk.group = "" then [gvk.version, gvk.kind] else [gvk.group, gvk.version, gvk.kind]

/-- The text of a kind is its parts with slashes between them. -/
theorem key_eq_join (gvk : GroupVersionKind) :
    gvk.key.toList = joinWith ['/'] (gvk.parts.map String.toList) := by
  unfold key gvkKey parts
  split <;> simp [joinWith]

/-- The parts without slashes are found again in the text. -/
theorem split_on_key {gvk : GroupVersionKind} (h : gvk.SlashFree) :
    splitOn '/' gvk.key.toList = gvk.parts.map String.toList := by
  rw [key_eq_join, split_on_join_with]
  · unfold parts
    split <;> simp
  · unfold parts
    split <;> simp [h.group, h.version, h.kind]

/-- A kind is told by the parts that are written. -/
theorem parts_inj {first second : GroupVersionKind} (h : first.parts = second.parts) :
    first = second := by
  obtain ⟨group, version, kind⟩ := first
  obtain ⟨group', version', kind'⟩ := second
  unfold parts at h
  dsimp only at h
  split at h <;> split at h <;> simp_all

/-- Kinds without slashes are told apart by their texts. -/
theorem key_inj {first second : GroupVersionKind} (hfirst : first.SlashFree)
    (hsecond : second.SlashFree) (h : first.key = second.key) : first = second := by
  have hparts : first.parts.map String.toList = second.parts.map String.toList := by
    rw [← split_on_key hfirst, ← split_on_key hsecond, h]
  exact parts_inj (List.map_injective_iff.mpr (fun _ _ => String.toList_inj.mp) hparts)

end GroupVersionKind

namespace Mapper

variable {discover : Call (List ResourceId)} {ctx : RequestContext} {served : List ResourceId}
  {gvk : GroupVersionKind} {group kind : String} {r : ResourceId} {w final : World}

/-! ## Looking up -/

/-- The resource is served, and no later one has the same text. -/
def IsLast (served : List ResourceId) (r : ResourceId) : Prop :=
  ∃ before after, served = before ++ r :: after ∧ ∀ other ∈ after, other.gvk.key ≠ r.gvk.key

/-- Under the text of a kind the last resource is found. -/
theorem by_gvk_eq_some_iff :
    byGvk? served gvk = some r ↔ IsLast served r ∧ r.gvk.key = gvk.key := by
  unfold byGvk? IsLast
  rw [List.find?_eq_some_iff_append]
  simp only [decide_eq_true_eq, Bool.not_eq_true', decide_eq_false_iff_not]
  constructor
  · rintro ⟨hkey, later, earlier, hserved, hlater⟩
    refine ⟨⟨earlier.reverse, later.reverse, ?_, ?_⟩, hkey⟩
    · rw [← List.reverse_reverse served, hserved]
      simp
    · rw [hkey]
      simpa using hlater
  · rintro ⟨⟨before, after, rfl, hafter⟩, hkey⟩
    refine ⟨hkey, after.reverse, before.reverse, by simp, ?_⟩
    rw [← hkey]
    simpa using hafter

/-- Under a group and a kind the first resource is found. -/
theorem by_kind_eq_some_iff :
    byKind? served group kind = some r ↔
      (r.group = group ∧ r.kind = kind) ∧ ∃ before after, served = before ++ r :: after ∧
        ∀ other ∈ before, ¬ (other.group = group ∧ other.kind = kind) := by
  unfold byKind?
  rw [List.find?_eq_some_iff_append]
  simp only [Bool.and_eq_true, decide_eq_true_eq, Bool.not_eq_true', Bool.and_eq_false_iff,
    decide_eq_false_iff_not, not_and_or]

/-- The resources that a question is answered from: those known before, where the question changes
nothing, or those that the cluster lists when none are known or those known are old. -/
inductive Learned (discover : Call (List ResourceId)) (ctx : RequestContext) (w : World)
    (served : List ResourceId) : World → Prop where
  | known (hserved : w.served = some served) : Learned discover ctx w served w
  | discovered {listed : World} (hold : isFresh w = false)
      (hlist : ctx.run discover w = (.ok served, listed)) :
      Learned discover ctx w served
        { listed with kinds := some { resources := served, since := listed.now } }

/-- What was learned is known. -/
theorem Learned.served_eq (h : Learned discover ctx w served final) :
    final.served = some served := by
  cases h with
  | known hserved => exact hserved
  | discovered => rfl

section

variable {α : Type} {lookup : List ResourceId → Option α} {a : α}

/-- What is found among the resources known is found without a question. -/
theorem find_of_known (h : lookup (known w) = some a) :
    find discover ctx lookup w = (.ok (some a), w) := by
  have hlook : look lookup w = (.ok (some a), w) := by rw [look, h]
  exact Action.bind_eq_ok_iff.mpr ⟨some a, w, hlook, rfl⟩

/-- Asking for the resources leaves those known that were fresh, or those that are listed. -/
theorem refresh_ok (h : refresh discover ctx w = (.ok (), final)) :
    ∃ served, Learned discover ctx w served final := by
  unfold refresh at h
  split at h
  · next hfresh =>
      cases h
      obtain ⟨served, hserved⟩ := exists_served_of_fresh hfresh
      exact ⟨served, .known hserved⟩
  · next hold =>
      obtain ⟨served, listed, hlist, hstore⟩ := Action.bind_eq_ok_iff.mp h
      cases hstore
      exact ⟨served, .discovered (Bool.eq_false_iff.mpr hold) hlist⟩

/-- What is found is found among the resources that are then known. -/
theorem find_ok (hnil : lookup [] = none)
    (h : find discover ctx lookup w = (.ok (some a), final)) :
    ∃ served, Learned discover ctx w served final ∧ lookup served = some a := by
  obtain ⟨found, middle, hlook, hrest⟩ := Action.bind_eq_ok_iff.mp h
  cases hlook
  cases hfound : lookup (known w) with
  | some b =>
      rw [hfound] at hrest
      cases hrest
      cases hserved : w.served with
      | none =>
          rw [known, hserved] at hfound
          rw [Option.getD_none, hnil] at hfound
          cases hfound
      | some served =>
          rw [known, hserved] at hfound
          exact ⟨served, .known hserved, hfound⟩
  | none =>
      rw [hfound] at hrest
      obtain ⟨_, learned, hrefresh, hlook⟩ := Action.bind_eq_ok_iff.mp hrest
      obtain ⟨served, hlearned⟩ := refresh_ok hrefresh
      have hknown : known learned = served := by rw [known, hlearned.served_eq, Option.getD_some]
      obtain ⟨hfound, rfl⟩ := Prod.mk.inj hlook
      rw [hknown] at hfound
      exact ⟨served, hlearned, Except.ok.inj hfound⟩

end

/-! ## The resource of a kind -/

/-- The resource of a kind among those known is found without a question. -/
theorem resolve_of_known (h : byGvk? (known w) gvk = some r) :
    resolve discover ctx gvk w = (.ok r, w) :=
  Action.bind_eq_ok_iff.mpr ⟨some r, w, find_of_known h, rfl⟩

/-- What a kind is resolved to is the last resource under its text, among those known before or
those that the cluster lists when none are known or those known are old. Of a resource without
slashes it is the kind that was asked for exactly when that has no slash either. -/
theorem resolve_finds_key (h : resolve discover ctx gvk w = (.ok r, final)) :
    ∃ served, Learned discover ctx w served final ∧ r ∈ served ∧ IsLast served r ∧
      r.gvk.key = gvk.key ∧ (r.gvk.SlashFree → (r.gvk = gvk ↔ gvk.SlashFree)) := by
  obtain ⟨found, middle, hfind, hrest⟩ := Action.bind_eq_ok_iff.mp h
  cases found with
  | none => cases hrest
  | some found =>
      cases hrest
      obtain ⟨served, hlearned, hlookup⟩ := find_ok rfl hfind
      obtain ⟨hlast, hkey⟩ := by_gvk_eq_some_iff.mp hlookup
      refine ⟨served, hlearned, ?_, hlast, hkey, fun hfree => ⟨fun heq => heq ▸ hfree, ?_⟩⟩
      · obtain ⟨before, after, rfl, -⟩ := hlast
        exact List.mem_append_right _ List.mem_cons_self
      · exact fun hgvk => GroupVersionKind.key_inj hfree hgvk hkey

/-- The deployments of a cluster. -/
def appsDeployments : ResourceId := ⟨"apps", "v1", "deployments", "Deployment", .namespaced⟩

/-- A cluster that lists nothing but its deployments. -/
def listsDeployments : Call (List ResourceId) := scripted [.ok [appsDeployments]] 0

/-- A mapper that knows nothing yet finds the deployments under their own kind. -/
theorem deployments_are_resolved :
    ∃ final served,
      resolve listsDeployments {} ⟨"apps", "v1", "Deployment"⟩ {} = (.ok appsDeployments, final) ∧
        Learned listsDeployments {} {} served final ∧ IsLast served appsDeployments ∧
        (appsDeployments.gvk = ⟨"apps", "v1", "Deployment"⟩ ↔
          GroupVersionKind.SlashFree ⟨"apps", "v1", "Deployment"⟩) := by
  obtain ⟨final, hresolved⟩ : ∃ final,
      resolve listsDeployments {} ⟨"apps", "v1", "Deployment"⟩ {} = (.ok appsDeployments, final) :=
    ⟨_, rfl⟩
  obtain ⟨served, hlearned, -, hlast, -, hkind⟩ := resolve_finds_key hresolved
  exact ⟨final, served, hresolved, hlearned, hlast, hkind ⟨by decide, by decide, by decide⟩⟩

/-- An object of another version and kind is taken for a deployment: with the slash in its kind the
text is the same. A memory cluster refuses it. -/
theorem slash_in_kind_misleads :
    let gvk : GroupVersionKind := ⟨"", "apps", "v1/Deployment"⟩
    GroupVersionKind.ofObject?
        (.object [("apiVersion", .str "apps"), ("kind", .str "v1/Deployment")]) = some gvk ∧
      (∃ final, resolve listsDeployments {} gvk {} = (.ok appsDeployments, final)) ∧
      appsDeployments.gvk ≠ gvk ∧
      MemoryCluster.findKind { resources := [appsDeployments] } gvk = .error (noMatch gvk) := by
  refine ⟨by decide, ⟨_, rfl⟩, by decide, ?_⟩
  decide

end Mapper

/-! ## The resource of a group and kind -/

/-- In a memory cluster the first resource of a kind is found. -/
theorem MemoryCluster.find_kind_eq_ok_iff {cluster : MemoryCluster} {gvk : GroupVersionKind}
    {r : ResourceId} :
    cluster.findKind gvk = .ok r ↔ r.gvk = gvk ∧
      ∃ before after, cluster.resources = before ++ r :: after ∧
        ∀ other ∈ before, other.gvk ≠ gvk := by
  rw [find_kind_eq_ok_iff_served, served?, List.find?_eq_some_iff_append]
  simp only [decide_eq_true_eq, Bool.not_eq_true', decide_eq_false_iff_not, ne_eq]

namespace Mapper

variable {discover : Call (List ResourceId)} {ctx : RequestContext} {served : List ResourceId}
  {gvk : GroupVersionKind} {group kind : String} {r : ResourceId} {w final : World}

/-- Under every text of a resource served one is the last. -/
theorem exists_last (h : r ∈ served) : ∃ last, IsLast served last ∧ last.gvk.key = r.gvk.key := by
  cases hfind : byGvk? served r.gvk with
  | none =>
      have hnone := List.find?_eq_none.mp hfind r (List.mem_reverse.mpr h)
      exact absurd (decide_eq_true rfl) hnone
  | some last => exact ⟨last, by_gvk_eq_some_iff.mp hfind⟩

/-- Of two last resources under one text there is only one. -/
theorem IsLast.eq {first second : ResourceId} (hfirst : IsLast served first)
    (hsecond : IsLast served second) (hkey : first.gvk.key = second.gvk.key) : first = second := by
  have hfound := by_gvk_eq_some_iff.mpr ⟨hfirst, hkey⟩
  rw [by_gvk_eq_some_iff.mpr ⟨hsecond, rfl⟩] at hfound
  exact (Option.some.inj hfound).symm

/-- The first resource of a group and kind is the first of its own kind. -/
theorem find_kind_of_by_kind {cluster : MemoryCluster}
    (h : byKind? cluster.resources group kind = some r) : cluster.findKind r.gvk = .ok r := by
  obtain ⟨⟨rfl, rfl⟩, before, after, hserved, hbefore⟩ := by_kind_eq_some_iff.mp h
  refine MemoryCluster.find_kind_eq_ok_iff.mpr ⟨rfl, before, after, hserved, ?_⟩
  intro other hother heq
  exact hbefore other hother
    ⟨congrArg GroupVersionKind.group heq, congrArg GroupVersionKind.kind heq⟩

/-- What a group and kind are resolved to is the first resource of that group and kind. Its kind is
then resolved without a question, as long as the same resources are known, to the last resource
under the same text: to the same resource exactly when it is the last itself. A memory cluster that
serves these resources finds the same one both times. -/
theorem resolve_after_resolve_kind
    (h : resolveKind discover ctx group kind w = (.ok (some r), final)) :
    ∃ served, Learned discover ctx w served final ∧ byKind? served group kind = some r ∧
      (∀ (again : Call (List ResourceId)) (other : RequestContext) (later : World),
        later.served = some served →
          ∃ last, resolve again other r.gvk later = (.ok last, later) ∧ IsLast served last ∧
            last.gvk.key = r.gvk.key ∧ (last = r ↔ IsLast served r)) ∧
      ∀ cluster : MemoryCluster, cluster.resources = served → cluster.findKind r.gvk = .ok r := by
  obtain ⟨served, hlearned, hfound⟩ := find_ok rfl h
  refine ⟨served, hlearned, hfound, fun again other later hlater => ?_, ?_⟩
  · obtain ⟨-, before, after, hserved, -⟩ := by_kind_eq_some_iff.mp hfound
    have hmem : r ∈ served := hserved ▸ List.mem_append_right _ List.mem_cons_self
    obtain ⟨last, hlast, hkey⟩ := exists_last hmem
    have hknown : known later = served := by rw [known, hlater, Option.getD_some]
    have hresolved : byGvk? (known later) r.gvk = some last := by
      rw [hknown]
      exact by_gvk_eq_some_iff.mpr ⟨hlast, hkey⟩
    exact ⟨last, resolve_of_known hresolved, hlast, hkey, fun heq => heq ▸ hlast,
      fun hr => hlast.eq hr hkey⟩
  · rintro cluster rfl
    exact find_kind_of_by_kind hfound

/-- The same deployments under a second name, for the whole cluster. -/
def appsDeploys : ResourceId := ⟨"apps", "v1", "deploys", "Deployment", .cluster⟩

/-- A cluster that lists its deployments under two names. -/
def listsTwoNames : Call (List ResourceId) := scripted [.ok [appsDeployments, appsDeploys]] 0

/-- The deployments that are listed alone are found both times. -/
theorem deployments_are_found_again :
    ∃ final served, resolveKind listsDeployments {} "apps" "Deployment" {} =
        (.ok (some appsDeployments), final) ∧ Learned listsDeployments {} {} served final ∧
      ∃ last, resolve listsDeployments {} appsDeployments.gvk final = (.ok last, final) ∧
        (last = appsDeployments ↔ IsLast served appsDeployments) := by
  obtain ⟨final, hresolved⟩ : ∃ final, resolveKind listsDeployments {} "apps" "Deployment" {} =
      (.ok (some appsDeployments), final) :=
    ⟨_, rfl⟩
  obtain ⟨served, hlearned, -, hagain, -⟩ := resolve_after_resolve_kind hresolved
  obtain ⟨last, hlast, -, -, hsame⟩ := hagain listsDeployments {} final hlearned.served_eq
  exact ⟨final, served, hresolved, hlearned, last, hlast, hsame⟩

/-- Of two names for one kind, a group and kind are resolved to the first, and the kind of that to
the second, which is of another scope. A memory cluster finds the first both times. -/
theorem second_name_is_resolved :
    (∃ final, resolveKind listsTwoNames {} "apps" "Deployment" {} =
        (.ok (some appsDeployments), final) ∧
      resolve listsTwoNames {} appsDeployments.gvk final = (.ok appsDeploys, final)) ∧
    appsDeploys ≠ appsDeployments ∧
    MemoryCluster.findKind { resources := [appsDeployments, appsDeploys] } appsDeployments.gvk =
      .ok appsDeployments :=
  ⟨⟨_, rfl, rfl⟩, by decide, by decide⟩

end Mapper

end VirtualApi

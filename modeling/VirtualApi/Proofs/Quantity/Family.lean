import Mathlib.Algebra.BigOperators.Ring.List
import Mathlib.Algebra.Order.BigOperators.Group.List
import VirtualApi.Proofs.Quantity.Sums

/-!
# The suffix family of a sum

Between the steps of a sum its family is carried by the text alone, and a text without a suffix of
the family shows the decimal one. `sum_renders` follows that through a sum of any length, for texts
of one family: the sum is written in that family as long as every sum on the way shows it.
`binary_sum_renders` says it of the binary family, where the sums on the way have to be multiples of
1024 units other than zero.
-/

namespace VirtualApi

namespace Quantity

variable {format : Format} {amounts : List Int}

/-- The decimal family stays. -/
@[simp] theorem shown_decimal (millis : Int) :
    (⟨millis, .decimalSI⟩ : Quantity).shown = .decimalSI := ite_self _

/-- What is read of the text of a quantity in range. -/
theorem eq_of_parse_text {q left : Quantity} (h : q.InRange) (hparse : parse q.text = .ok left) :
    left = ⟨q.millis, q.shown⟩ := by
  by_cases hleast : q.millis = minAmount
  · obtain ⟨millis, format⟩ := q
    have heq : millis = minAmount := hleast
    rw [heq, least_text, parse_least_text] at hparse
    cases hparse
  · rw [parse_text q h hleast] at hparse
    exact (Except.ok.inj hparse).symm

/-- Every sum of some of the first amounts, but not of all, shows the family. -/
def ShowsThroughout (format : Format) (amounts : List Int) : Prop :=
  ∀ k < amounts.length, 0 < k → (⟨(amounts.take k).sum, format⟩ : Quantity).shown = format

instance (format : Format) (amounts : List Int) : Decidable (ShowsThroughout format amounts) :=
  inferInstanceAs (Decidable (∀ k < amounts.length, 0 < k → _))

/-- The family of the sum of amounts that are added one after the other. -/
def sumFormat (format : Format) (amounts : List Int) : Format :=
  if ShowsThroughout format amounts then format else .decimalSI

/-- One amount is in its own family. -/
theorem sum_format_singleton (format : Format) (amount : Int) :
    sumFormat format [amount] = format :=
  if_pos fun k hk hpos => absurd (show k < 1 from hk) (by omega)

/-- With one more amount, what is shown counts as well. -/
theorem shows_throughout_concat (hne : amounts ≠ []) (amount : Int) :
    ShowsThroughout format (amounts ++ [amount]) ↔
      ShowsThroughout format amounts ∧ (⟨amounts.sum, format⟩ : Quantity).shown = format := by
  unfold ShowsThroughout
  rw [List.length_append, List.length_singleton]
  constructor
  · intro h
    refine ⟨fun k hk hpos => ?_, ?_⟩
    · have hshown := h k (by omega) hpos
      rwa [List.take_append_of_le_length (by omega)] at hshown
    · have hshown := h amounts.length (by omega) (List.length_pos_of_ne_nil hne)
      rwa [List.take_left] at hshown
  · intro ⟨h, hlast⟩ k hk hpos
    rw [List.take_append_of_le_length (by omega)]
    rcases Nat.lt_or_eq_of_le (Nat.le_of_lt_succ hk) with hlt | rfl
    · exact h k hlt hpos
    · rw [List.take_length]
      exact hlast

/-- One more amount is added in the family that the text of the sum before it shows. -/
theorem sum_format_concat (hne : amounts ≠ []) (amount : Int) :
    sumFormat format (amounts ++ [amount]) =
      (⟨amounts.sum, sumFormat format amounts⟩ : Quantity).shown := by
  unfold sumFormat
  simp only [shows_throughout_concat hne]
  by_cases h : ShowsThroughout format amounts
  · rw [if_pos h]
    by_cases hshown : (⟨amounts.sum, format⟩ : Quantity).shown = format
    · rw [if_pos ⟨h, hshown⟩, hshown]
    · rw [if_neg fun hboth => hshown hboth.2]
      unfold shown at hshown ⊢
      split
      · next hunit => exact absurd (if_pos hunit) hshown
      · rfl
  · rw [if_neg h, if_neg fun hboth => h hboth.1, shown_decimal]

end Quantity

namespace ResourceList

open Quantity

variable {format : Format} {amounts : List Int} {a b c list base result : ResourceList}
  {lists : List ResourceList} {name : String}

/-- The text for amounts that are added one after the other; no amounts have none. -/
def sumText? (format : Format) (amounts : List Int) : Option String :=
  if amounts = [] then none
  else some (⟨amounts.sum, sumFormat format amounts⟩ : Quantity).text

/-- Every text under the name is read as a quantity of the family. -/
def InFamily (format : Format) (lists : List ResourceList) (name : String) : Prop :=
  ∀ list ∈ lists, ∀ text, list.get? name = some text → ∃ amount, parse text = .ok ⟨amount, format⟩

/-- A list that adds up the amounts so far has their text under the name, and their sum is in
range. -/
structure Renders (format : Format) (amounts : List Int) (list : ResourceList) (name : String) :
    Prop where
  text : list.get? name = sumText? format amounts
  range : (⟨amounts.sum, format⟩ : Quantity).InRange

/-- Adding a list that does not have the name leaves the text. -/
theorem Renders.add_without (ha : Renders format amounts a name) (hb : b.Ordered)
    (hnone : b.get? name = none) (h : add a b = .ok c) : Renders format amounts c name :=
  ⟨((get_of_merge_steps hb h name).1 hnone).trans ha.text, ha.range⟩

/-- Adding a list that has the name adds its amount to the text. -/
theorem Renders.add_amount (ha : Renders format amounts a name) (hb : b.Ordered) {text : String}
    {amount : Int} (htext : b.get? name = some text) (hparse : parse text = .ok ⟨amount, format⟩)
    (h : add a b = .ok c) : Renders format (amounts ++ [amount]) c name := by
  obtain ⟨merged, hmerged, hget⟩ := (get_of_merge_steps hb h name).2 text htext
  obtain ⟨right, hright, hcase⟩ := merge_one_eq_ok_iff.mp hmerged
  cases hparse.symm.trans hright
  have hown := ha.text
  unfold sumText? at hown
  rcases hcase with ⟨hnone, rfl⟩ | ⟨own, left, hsome, hleft, hpick⟩
  · rw [hnone] at hown
    split at hown
    · next hempty =>
        subst hempty
        refine ⟨?_, by simpa using in_range_of_natAbs_le (natAbs_le_of_parse hparse)⟩
        rw [hget, List.nil_append, sumText?, if_neg (List.cons_ne_nil _ _), List.sum_singleton,
          sum_format_singleton]
    · cases hown
  · rw [hsome] at hown
    split at hown
    · cases hown
    · next hne =>
        -- What is there is the text of the sum so far, and what it shows decides the family.
        cases hown
        cases eq_of_parse_text (q := ⟨amounts.sum, sumFormat format amounts⟩) ha.range hleft
        obtain ⟨millis, hmillis, rfl⟩ := Option.map_eq_some_iff.mp hpick
        obtain ⟨hrange, rfl⟩ := amount_eq_some_iff.mp hmillis
        refine ⟨?_, by rw [List.sum_append, List.sum_singleton]; exact hrange⟩
        rw [hget, sumText?, if_neg (List.append_ne_nil_of_left_ne_nil hne _), List.sum_append,
          List.sum_singleton, sum_format_concat hne]

/-- Adding a list adds the amount that it has under the name, if any. -/
theorem Renders.add_list (ha : Renders format amounts a name) (hb : b.Ordered)
    (hfamily : ∀ text, b.get? name = some text → ∃ amount, parse text = .ok ⟨amount, format⟩)
    (h : add a b = .ok c) : Renders format (amounts ++ (b.amount? name).toList) c name := by
  unfold amount?
  cases hget : b.get? name with
  | none =>
      rw [Option.bind_none, Option.toList_none, List.append_nil]
      exact ha.add_without hb hget h
  | some text =>
      obtain ⟨amount, hparse⟩ := hfamily text hget
      rw [Option.bind_some, hparse]
      exact ha.add_amount hb hget hparse h

/-- Adding lists one after the other adds the amounts that they mention. -/
theorem Renders.fold (hbase : Renders format amounts base name)
    (hordered : ∀ list ∈ lists, list.Ordered) (hfamily : InFamily format lists name)
    (h : lists.foldlM ResourceList.add base = .ok result) :
    Renders format (amounts ++ mentions lists name) result name := by
  induction lists generalizing base amounts with
  | nil =>
      cases h
      rw [mentions, List.filterMap_nil, List.append_nil]
      exact hbase
  | cons list lists ih =>
      rw [List.foldlM_cons] at h
      obtain ⟨next, hnext, hrest⟩ := result_bind_eq_ok_iff.mp h
      obtain ⟨hfirst, hothers⟩ := List.forall_mem_cons.mp hordered
      have hstep := hbase.add_list hfirst (hfamily list List.mem_cons_self) hnext
      have hrun := ih hstep hothers (fun other hother =>
        hfamily other (List.mem_cons_of_mem _ hother)) hrest
      have hmentions : mentions (list :: lists) name =
          (list.amount? name).toList ++ mentions lists name := by
        unfold mentions
        rw [List.filterMap_cons]
        cases list.amount? name <;> rfl
      rwa [hmentions, ← List.append_assoc]

/-- The sum of lists with texts of one family is written in that family under the name when every
sum on the way shows it, and in the decimal one otherwise. -/
theorem sum_renders (hordered : ∀ list ∈ lists, list.Ordered)
    (hfamily : InFamily format lists name) (h : sum lists = .ok result) :
    result.get? name = sumText? format (mentions lists name) := by
  have hempty : Renders format [] [] name := ⟨rfl, show minAmount ≤ 0 ∧ 0 ≤ maxAmount by decide⟩
  exact (hempty.fold hordered hfamily h).text

/-- The sum of lists whose texts under a name are all of the binary family. There is one as long as
the amounts stay within the range together. Its text under the name is that of the total in the
binary family when every sum on the way is a multiple of 1024 units other than zero, which is so
when every amount is a positive one; otherwise it is that of the total in the decimal family. -/
theorem binary_sum_renders (lists : List ResourceList) (name : String) (amounts : List Int)
    (hordered : ∀ list ∈ lists, list.Ordered) (hfamily : InFamily .binarySI lists name)
    (hamounts : mentions lists name = amounts) (hne : amounts ≠ []) :
    (Bounded lists → ∃ result, sum lists = .ok result) ∧
    ∀ result, sum lists = .ok result →
      result.get? name = some (⟨amounts.sum,
        if ∀ k < amounts.length, 0 < k →
            (amounts.take k).sum ≠ 0 ∧ (amounts.take k).sum % (1024 * 1000) = 0
          then .binarySI else .decimalSI⟩ : Quantity).text ∧
      ((∀ amount ∈ amounts, 0 < amount ∧ amount % (1024 * 1000) = 0) →
        result.get? name = some (⟨amounts.sum, .binarySI⟩ : Quantity).text) := by
  have hbinary {sum : Int} : (⟨sum, .binarySI⟩ : Quantity).shown = .binarySI ↔
      sum ≠ 0 ∧ sum % (1024 * 1000) = 0 := by
    unfold shown Format.unit
    dsimp only
    split <;> simp_all
  constructor
  · intro hbounded
    obtain ⟨result, hresult, -⟩ := pools_of_fold add_pooling hbounded (List.Perm.refl lists)
    exact ⟨result, hresult⟩
  · intro result h
    have hget := sum_renders hordered hfamily h
    rw [hamounts, sumText?, if_neg hne, sumFormat] at hget
    simp only [ShowsThroughout, hbinary] at hget
    refine ⟨hget, fun hwhole => ?_⟩
    rw [hget, if_pos fun k hk hpos => ?_]
    have htaken : ∀ amount ∈ amounts.take k, 0 < amount ∧ amount % (1024 * 1000) = 0 :=
      fun amount hamount => hwhole amount (List.mem_of_mem_take hamount)
    have hsome : amounts.take k ≠ [] := by
      rw [← List.length_pos_iff, List.length_take]
      omega
    have hsum : 0 < (amounts.take k).sum := List.sum_pos _ (fun a ha => (htaken a ha).1) hsome
    have hdvd : (1024 * 1000 : Int) ∣ (amounts.take k).sum :=
      List.dvd_sum fun a ha => Int.dvd_of_emod_eq_zero (htaken a ha).2
    exact ⟨Int.ne_of_gt hsum, Int.emod_eq_zero_of_dvd hdvd⟩

/-- One and a half times 1024, and half of 1024. -/
def halves : List ResourceList := [[("memory", "1.5Ki")], [("memory", "0.5Ki")]]

/-- Both are read in the binary family. -/
theorem halves_in_family : InFamily .binarySI halves "memory" := by
  intro list hlist text htext
  rcases List.mem_pair.mp hlist with rfl | rfl
  · cases htext
    exact ⟨1536000, rfl⟩
  · cases htext
    exact ⟨512000, rfl⟩

/-- The first of them has no binary suffix when it is written anew, and the sum has none either. -/
theorem halves_add_up_to_units :
    sum halves = .ok [("memory", "2048")] ∧
      Entries.get? "memory" [("memory", "2048")] =
        some (⟨2048000, .decimalSI⟩ : Quantity).text := by
  have hordered : ∀ list ∈ halves, list.Ordered := by decide
  have hamounts : mentions halves "memory" = [1536000, 512000] := rfl
  have hresult : sum halves = .ok [("memory", "2048")] := rfl
  have hrenders := (binary_sum_renders halves "memory" _ hordered halves_in_family hamounts
    (List.cons_ne_nil _ _)).2 _ hresult
  exact ⟨hresult, hrenders.1⟩

/-- A sum of texts of the binary family need not be written in it. -/
theorem binary_family_is_lost :
    ¬ ∀ (lists : List ResourceList) (name : String) (result : ResourceList),
      (∀ list ∈ lists, list.Ordered) → InFamily .binarySI lists name → mentions lists name ≠ [] →
      sum lists = .ok result →
      result.get? name = some (⟨(mentions lists name).sum, .binarySI⟩ : Quantity).text := by
  intro hall
  have hresult : sum halves = .ok [("memory", "2048")] := rfl
  have hget := hall halves "memory" _ (by decide) halves_in_family (by decide) hresult
  have hunits : Entries.get? "memory" [("memory", "2048")] = some "2048" := rfl
  have hkibis : (⟨(mentions halves "memory").sum, .binarySI⟩ : Quantity).text = "2Ki" := rfl
  rw [hunits, hkibis] at hget
  exact absurd (Option.some.inj hget) (by decide)

end ResourceList

end VirtualApi

import Mathlib.Data.List.Nodup
import Mathlib.Data.List.Pairwise

/-!
# Items in the order of their texts

Items are sorted by a text that each of them has. `StablySorted` says what a stable sort makes of
them: they are in the order of their texts, and those with the same text are as they were. There is
one such list (`StablySorted.unique`), and sorting by the text makes it (`stablySorted_mergeSort`).
-/

namespace VirtualApi

variable {α : Type} {key : α → String} {items sorted first second : List α}

/-- Items in the order of their texts, where those of one text are in the order they had. -/
structure StablySorted (key : α → String) (items sorted : List α) : Prop where
  ordered : sorted.Pairwise fun a b => key a ≤ key b
  ties : ∀ text, (sorted.filter fun a => key a = text) = items.filter fun a => key a = text

/-- Items that are in order already are sorted. -/
theorem StablySorted.of_ordered (h : items.Pairwise fun a b => key a ≤ key b) :
    StablySorted key items items := ⟨h, fun _ => rfl⟩

/-- Lists in the order of the texts are the same when they have the same items of each text. -/
theorem eq_of_filter_key_eq (hfirst : first.Pairwise fun a b => key a ≤ key b)
    (hsecond : second.Pairwise fun a b => key a ≤ key b)
    (h : ∀ text, (first.filter fun a => key a = text) = second.filter fun a => key a = text) :
    first = second := by
  have hsub {left right : List α}
      (hsame : ∀ text, (left.filter fun a => key a = text) = right.filter fun a => key a = text)
      {a : α} (ha : a ∈ left) : a ∈ right := by
    have hmem : a ∈ left.filter fun b => key b = key a :=
      List.mem_filter.mpr ⟨ha, decide_eq_true rfl⟩
    exact (List.mem_filter.mp (hsame _ ▸ hmem)).1
  induction first generalizing second with
  | nil => exact (List.eq_nil_iff_forall_not_mem.mpr fun a ha =>
      List.not_mem_nil (hsub (fun text => (h text).symm) ha)).symm
  | cons a rest ih =>
      obtain ⟨b, others, rfl⟩ : ∃ b others, second = b :: others :=
        List.exists_cons_of_ne_nil (List.ne_nil_of_mem (hsub h List.mem_cons_self))
      obtain ⟨hleast, hrest⟩ := List.pairwise_cons.mp hfirst
      obtain ⟨hleastOther, hothers⟩ := List.pairwise_cons.mp hsecond
      -- the first items have the same text, so that each is the first of that text
      have hab : key a ≤ key b :=
        (List.mem_cons.mp (hsub (fun text => (h text).symm) List.mem_cons_self)).elim
          (fun heq => heq ▸ String.le_refl _) (hleast b)
      have hba : key b ≤ key a :=
        (List.mem_cons.mp (hsub h List.mem_cons_self)).elim
          (fun heq => heq ▸ String.le_refl _) (hleastOther a)
      have hkey : key a = key b := String.le_antisymm hab hba
      have hheads := h (key b)
      simp only [List.filter_cons, hkey, decide_true, if_true] at hheads
      obtain ⟨rfl, -⟩ := List.cons.inj hheads
      refine congrArg (a :: ·) (ih hrest hothers fun text => ?_)
      have htext := h text
      simp only [List.filter_cons] at htext
      split at htext
      · exact (List.cons.inj htext).2
      · exact htext

/-- Items can be sorted in one way. -/
theorem StablySorted.unique (hfirst : StablySorted key items first)
    (hsecond : StablySorted key items second) : first = second :=
  eq_of_filter_key_eq hfirst.ordered hsecond.ordered fun text =>
    (hfirst.ties text).trans (hsecond.ties text).symm

/-! ## Sorting -/

/-- The order of the texts is transitive on the items. -/
theorem key_le_trans (key : α → String) (a b c : α) :
    decide (key a ≤ key b) = true → decide (key b ≤ key c) = true →
      decide (key a ≤ key c) = true := by
  simpa using String.le_trans

/-- Any two items are in it. -/
theorem key_le_total (key : α → String) (a b : α) :
    (decide (key a ≤ key b) || decide (key b ≤ key a)) = true := by
  simpa using String.le_total (key a) (key b)

/-- The items are in the order of their texts. -/
theorem pairwise_mergeSort_key (key : α → String) (items : List α) :
    (items.mergeSort fun a b => key a ≤ key b).Pairwise fun a b => key a ≤ key b :=
  (List.pairwise_mergeSort (key_le_trans key) (key_le_total key) items).imp of_decide_eq_true

/-- Items with the same text keep their order. -/
theorem filter_mergeSort_key (items : List α) (text : String) :
    (items.mergeSort fun a b => key a ≤ key b).filter (fun a => key a = text) =
      items.filter fun a => key a = text := by
  let same := items.filter fun a => key a = text
  have hkey : ∀ a ∈ same, key a = text := fun a ha => by simpa using (List.mem_filter.mp ha).2
  have hsame : same.Pairwise fun a b => decide (key a ≤ key b) = true := by
    refine List.pairwise_of_forall_mem_list fun a ha b hb => ?_
    rw [hkey a ha, hkey b hb]
    exact decide_eq_true (String.le_refl _)
  -- the items of a text are in order already, so that the sort leaves them as they are
  have hsub : same.Sublist (items.mergeSort fun a b => key a ≤ key b) :=
    List.sublist_mergeSort (key_le_trans key) (key_le_total key) hsame List.filter_sublist
  have hfilter := hsub.filter fun a => key a = text
  rw [List.filter_eq_self.mpr fun a ha => decide_eq_true (hkey a ha)] at hfilter
  exact (hfilter.eq_of_length
    ((List.mergeSort_perm items _).symm.filter _).length_eq).symm

/-- Sorting by the texts sorts stably. -/
theorem stablySorted_mergeSort (key : α → String) (items : List α) :
    StablySorted key items (items.mergeSort fun a b => key a ≤ key b) where
  ordered := pairwise_mergeSort_key key items
  ties := filter_mergeSort_key items

/-- Where no two items have the same text, putting them in the order of their texts sorts them. -/
theorem StablySorted.of_perm (hordered : sorted.Pairwise fun a b => key a ≤ key b)
    (hperm : sorted.Perm items) (hkeys : (items.map key).Nodup) :
    StablySorted key items sorted := by
  have hsame : sorted = items.mergeSort fun a b => key a ≤ key b := by
    refine (hperm.trans (List.mergeSort_perm items _).symm).eq_of_pairwise ?_ hordered
      (pairwise_mergeSort_key key items)
    intro a b ha hb hab hba
    exact List.inj_on_of_nodup_map hkeys (hperm.mem_iff.mp ha) (List.mem_mergeSort.mp hb)
      (String.le_antisymm hab hba)
  rw [hsame]
  exact stablySorted_mergeSort key items

end VirtualApi

import VirtualApi.Proofs.Json.Entries
import VirtualApi.Proofs.Quantity.Amount
import VirtualApi.Proofs.Result
import VirtualApi.Quantity.ResourceList

/-!
# What operations on resource lists do to the amounts

`Gives` says which amount a resource list has under each name. Merging two lists that give amounts
gives the combined amounts, name by name (`merge_gives`), and scaling gives the multiples
(`scale_gives`), however the texts are written. `merge_eq_ok` and `scale_eq_ok` say when there is a
result at all.
-/

namespace VirtualApi.ResourceList

open Quantity

variable {pick : Quantity → Quantity → Option Quantity} {op : Int → Int → Int}
variable {a b c list scaled : ResourceList} {f g : String → Option Int} {factor : Int}

/-- The list is in name order, and under each name there is a text for the name's amount, or no text
when the name has none. -/
structure Gives (R : String → Int → Prop) (list : ResourceList) (amounts : String → Option Int) :
    Prop where
  ordered : list.Ordered
  texts : ∀ name, Option.Rel R (list.get? name) (amounts name)

/-- The empty list gives no amount. -/
theorem gives_empty (R : String → Int → Prop) : Gives R [] fun _ => none :=
  ⟨List.Pairwise.nil, fun _ => .none⟩

/-- A text of the list is for the amount that the list gives. -/
theorem Gives.of_get {R : String → Int → Prop} {name text : String} (h : Gives R list f)
    (hget : list.get? name = some text) : ∃ amount, f name = some amount ∧ R text amount := by
  have hrel := h.texts name
  rw [hget] at hrel
  cases hf : f name with
  | none =>
      rw [hf] at hrel
      cases hrel
  | some amount =>
      rw [hf] at hrel
      cases hrel with
      | some hR => exact ⟨amount, rfl, hR⟩

/-- No amount is given where there is no text. -/
theorem Gives.of_get_none {R : String → Int → Prop} {name : String} (h : Gives R list f)
    (hget : list.get? name = none) : f name = none := by
  have hrel := h.texts name
  rw [hget] at hrel
  cases hf : f name with
  | none => rfl
  | some amount =>
      rw [hf] at hrel
      cases hrel

/-- What holds of every text for an amount that is given. -/
theorem Gives.imp {R S : String → Int → Prop} (h : Gives R list f)
    (himp : ∀ name text amount, f name = some amount → R text amount → S text amount) :
    Gives S list f := by
  refine ⟨h.ordered, fun name => ?_⟩
  cases hget : list.get? name with
  | none =>
      rw [h.of_get_none hget]
      exact .none
  | some text =>
      obtain ⟨amount, hamount, hR⟩ := h.of_get hget
      rw [hamount]
      exact .some (himp name text amount hamount hR)

/-- Texts that stand for amounts other than the least are read as these amounts. -/
theorem Gives.reads (h : Gives Denotes list f) (hleast : ∀ name, f name ≠ some minAmount) :
    Gives Reads list f :=
  h.imp fun name _ _ hamount hdenotes => hdenotes.reads fun heq => hleast name (heq ▸ hamount)

/-- Texts that are read as amounts stand for them. -/
theorem Gives.denotes (h : Gives Reads list f) : Gives Denotes list f :=
  h.imp fun _ _ _ _ hreads => hreads.denotes

/-- A list gives no other amounts. -/
theorem Gives.eq (h : Gives Denotes list f) (hother : Gives Denotes list g) : f = g := by
  funext name
  cases hget : list.get? name with
  | none => rw [h.of_get_none hget, hother.of_get_none hget]
  | some text =>
      obtain ⟨first, hfirst, hdenotes⟩ := h.of_get hget
      obtain ⟨second, hsecond, hotherDenotes⟩ := hother.of_get hget
      rw [hfirst, hsecond, hdenotes.eq hotherDenotes]

/-! ## Merging -/

/-- One step of a merge: an entry of the second list is stored, combined with what the first list
has under the name. -/
def mergeStep (pick : Quantity → Quantity → Option Quantity) (base out : ResourceList)
    (entry : String × String) : Except Failure ResourceList := do
  let merged ← mergeOne pick base entry.1 entry.2
  pure (Entries.set entry.1 merged.text out)

/-- A merge is these steps over the second list. -/
theorem merge_eq_foldlM : merge pick a b = b.foldlM (mergeStep pick a) a := rfl

/-- Names that are not merged in keep their texts, and each other name has the text of its merged
quantity. -/
theorem get_of_merge_steps {rest out : ResourceList} (hordered : rest.Ordered)
    (h : rest.foldlM (mergeStep pick a) out = .ok c) (name : String) :
    (rest.get? name = none → c.get? name = out.get? name) ∧
      ∀ text, rest.get? name = some text →
        ∃ merged, mergeOne pick a name text = .ok merged ∧ c.get? name = some merged.text := by
  induction rest generalizing out with
  | nil =>
      cases h
      exact ⟨fun _ => rfl, fun _ hget => nomatch hget⟩
  | cons entry rest ih =>
      obtain ⟨key, own⟩ := entry
      obtain ⟨hfirst, hrest⟩ := List.pairwise_cons.mp hordered
      rw [List.foldlM_cons] at h
      obtain ⟨next, hstep, hnext⟩ := result_bind_eq_ok_iff.mp h
      obtain ⟨merged, hmerged, hset⟩ := result_bind_eq_ok_iff.mp hstep
      cases hset
      obtain ⟨hkept, hstored⟩ := ih hrest hnext
      by_cases hkey : key = name
      · subst hkey
        -- No later entry is for the same name, so that what this step stores stays.
        have hlater : Entries.get? key rest = none :=
          Entries.get_eq_none_iff.mpr fun entry hentry heq =>
            String.ne_of_lt (hfirst entry hentry) heq.symm
        refine ⟨fun hget => ?_, fun text hget => ?_⟩
        · simp [Entries.get?] at hget
        · have htext : own = text := by simpa [Entries.get?] using hget
          subst htext
          exact ⟨merged, hmerged, by rw [hkept hlater, Entries.get_set_self]⟩
      · have hget : Entries.get? name ((key, own) :: rest) = Entries.get? name rest := by
          simp [Entries.get?, hkey]
        rw [hget]
        refine ⟨fun hnone => ?_, hstored⟩
        rw [hkept hnone, Entries.get_set_of_ne (Ne.symm hkey)]

/-- Merging keeps the order. -/
theorem merge_steps_ordered {rest out : ResourceList} (hordered : out.Ordered)
    (h : rest.foldlM (mergeStep pick a) out = .ok c) : c.Ordered := by
  induction rest generalizing out with
  | nil =>
      cases h
      exact hordered
  | cons entry rest ih =>
      rw [List.foldlM_cons] at h
      obtain ⟨next, hstep, hnext⟩ := result_bind_eq_ok_iff.mp h
      obtain ⟨merged, -, hset⟩ := result_bind_eq_ok_iff.mp hstep
      cases hset
      exact ih (Entries.ordered_set hordered _ _) hnext

/-- A quantity that is merged in is the one that is read, or the combination with what is there. -/
theorem merge_one_eq_ok_iff {name text : String} {merged : Quantity} :
    mergeOne pick a name text = .ok merged ↔
      ∃ right, parse text = .ok right ∧
        ((a.get? name = none ∧ merged = right) ∨
          ∃ own left, a.get? name = some own ∧ parse own = .ok left ∧
            pick left right = some merged) := by
  unfold mergeOne
  rw [result_bind_eq_ok_iff]
  refine exists_congr fun right => and_congr_right fun _ => ?_
  cases hget : Entries.get? name a with
  | none =>
      constructor
      · intro h
        cases h
        exact Or.inl ⟨rfl, rfl⟩
      · rintro (⟨-, rfl⟩ | ⟨own, left, hown, -⟩)
        · rfl
        · cases hown
  | some own =>
      dsimp only
      rw [result_bind_eq_ok_iff]
      constructor
      · rintro ⟨left, hleft, h⟩
        split at h
        · next picked hpick =>
            cases h
            exact Or.inr ⟨own, left, rfl, hleft, hpick⟩
        · cases h
      · rintro (⟨hown, -⟩ | ⟨own', left, hown, hleft, hpick⟩)
        · cases hown
        · cases hown
          refine ⟨left, hleft, ?_⟩
          rw [hpick]
          rfl

/-- Merging two lists gives the combined amounts, name by name. -/
theorem merge_gives (hpick : Combines pick op) (ha : Gives Denotes a f) (hb : Gives Denotes b g)
    (h : merge pick a b = .ok c) :
    Gives Denotes c fun name => Option.merge op (f name) (g name) := by
  rw [merge_eq_foldlM] at h
  refine ⟨merge_steps_ordered ha.ordered h, fun name => ?_⟩
  obtain ⟨hkept, hstored⟩ := get_of_merge_steps hb.ordered h name
  cases hget : Entries.get? name b with
  | none =>
      rw [hkept hget, hb.of_get_none hget, Option.merge_none_right]
      exact ha.texts name
  | some text =>
      obtain ⟨merged, hmerged, hc⟩ := hstored text hget
      obtain ⟨amount, hamount, hdenotes⟩ := hb.of_get hget
      obtain ⟨right, hright, hcase⟩ := merge_one_eq_ok_iff.mp hmerged
      have hrightRange := in_range_of_natAbs_le (natAbs_le_of_parse hright)
      rw [hc, hamount, hdenotes.eq_of_parse hright]
      rcases hcase with ⟨hnone, rfl⟩ | ⟨own, left, hown, hleft, hpicked⟩
      · rw [ha.of_get_none hnone, Option.merge_none_left]
        exact .some (denotes_text hrightRange)
      · obtain ⟨first, hfirst, hfirstDenotes⟩ := ha.of_get hown
        have hleftRange := in_range_of_natAbs_le (natAbs_le_of_parse hleft)
        obtain ⟨hrange, hmillis⟩ := hpick hleftRange hrightRange hpicked
        rw [hfirst, hfirstDenotes.eq_of_parse hleft, Option.merge_some_some, ← hmillis]
        exact .some (denotes_text hrange)

/-- Where there is a result, every text that was merged in is read. -/
theorem reads_of_merge (h : merge pick a b = .ok c) {entry : String × String} (hentry : entry ∈ b) :
    ∃ amount, Reads entry.2 amount := by
  rw [merge_eq_foldlM] at h
  obtain ⟨before, after, hstep⟩ := exists_step_of_mem h hentry
  obtain ⟨merged, hmerged, -⟩ := result_bind_eq_ok_iff.mp hstep
  obtain ⟨right, hright, -⟩ := merge_one_eq_ok_iff.mp hmerged
  exact ⟨right.millis, .of_parse hright⟩

/-- There is a result when every quantity is read and every combination has one. -/
theorem merge_eq_ok (ha : Gives Reads a f) (hb : Gives Reads b g)
    (hpick : ∀ name left right, f name = some left.millis → g name = some right.millis →
      (pick left right).isSome) :
    ∃ c, merge pick a b = .ok c := by
  rw [merge_eq_foldlM]
  have hone : ∀ entry ∈ b, ∃ merged, mergeOne pick a entry.1 entry.2 = .ok merged := by
    rintro ⟨name, text⟩ hentry
    obtain ⟨amount, hamount, format, hright⟩ := hb.of_get (Entries.get_of_mem hb.ordered hentry)
    cases hget : Entries.get? name a with
    | none => exact ⟨_, merge_one_eq_ok_iff.mpr ⟨_, hright, Or.inl ⟨hget, rfl⟩⟩⟩
    | some own =>
        obtain ⟨first, hfirst, leftFormat, hleft⟩ := ha.of_get hget
        obtain ⟨merged, hmerged⟩ := Option.isSome_iff_exists.mp
          (hpick name ⟨first, leftFormat⟩ ⟨amount, format⟩ hfirst hamount)
        exact ⟨merged, merge_one_eq_ok_iff.mpr
          ⟨_, hright, Or.inr ⟨own, _, hget, hleft, hmerged⟩⟩⟩
  refine result_foldlM_of_forall (fun entry hentry out => ?_) a
  obtain ⟨merged, hmerged⟩ := hone entry hentry
  exact ⟨_, result_bind_eq_ok_iff.mpr ⟨merged, hmerged, rfl⟩⟩

/-! ## Scaling -/

/-- One entry of a list times an integer. -/
def scaleEntry (factor : Int) (entry : String × String) : Except Failure (String × String) := do
  let q ← parse entry.2
  match q.scale? factor with
  | some scaled => pure (entry.1, scaled.text)
  | none => throw (.overflow entry.1)

/-- A list is scaled entry by entry. -/
theorem scale_eq_mapM : scale list factor = list.mapM (scaleEntry factor) := rfl

/-- A scaled entry has the text of the scaled quantity. -/
theorem scale_entry_eq_ok_iff {entry result : String × String} :
    scaleEntry factor entry = .ok result ↔
      ∃ q scaled, parse entry.2 = .ok q ∧ q.scale? factor = some scaled ∧
        result = (entry.1, scaled.text) := by
  unfold scaleEntry
  rw [result_bind_eq_ok_iff]
  refine exists_congr fun q => ?_
  cases hscale : q.scale? factor with
  | none =>
      constructor
      · rintro ⟨-, h⟩
        cases h
      · rintro ⟨scaled, -, h, -⟩
        cases h
  | some scaled =>
      constructor
      · rintro ⟨hparse, h⟩
        cases h
        exact ⟨scaled, hparse, rfl, rfl⟩
      · rintro ⟨scaled', hparse, h, rfl⟩
        cases h
        exact ⟨hparse, rfl⟩

/-- The entries of a scaled list are those of the list, each with the text of its multiple. -/
theorem scaled_matching (h : scale list factor = .ok scaled) :
    Entries.Matching (fun _ text result => ∃ q multiple, parse text = .ok q ∧
      q.scale? factor = some multiple ∧ result = multiple.text) list scaled := by
  rw [scale_eq_mapM] at h
  refine (result_mapM_eq_ok_iff.mp h).imp fun entry result hentry => ?_
  obtain ⟨q, multiple, hparse, hscale, rfl⟩ := scale_entry_eq_ok_iff.mp hentry
  exact ⟨rfl, q, multiple, hparse, hscale, rfl⟩

/-- Scaling a list gives the multiples of its amounts. -/
theorem scale_gives (hlist : Gives Denotes list f) (h : scale list factor = .ok scaled) :
    Gives Denotes scaled fun name => (f name).map (factor * ·) := by
  have hmatching := scaled_matching h
  refine ⟨hmatching.ordered hlist.ordered, fun name => ?_⟩
  obtain ⟨hnone, hsome⟩ := hmatching.get name
  cases hget : list.get? name with
  | none =>
      rw [hnone hget, hlist.of_get_none hget]
      exact .none
  | some text =>
      obtain ⟨amount, hamount, hdenotes⟩ := hlist.of_get hget
      obtain ⟨result, hresult, q, multiple, hparse, hscale, rfl⟩ := hsome text hget
      obtain ⟨hrange, hmillis⟩ := scale_eq_some hscale
      rw [hresult, hamount, hdenotes.eq_of_parse hparse, Option.map_some, ← hmillis]
      exact .some (denotes_text hrange)

/-- There is a result when every quantity is read and every multiple is in range. -/
theorem scale_eq_ok (hlist : Gives Reads list f)
    (hrange : ∀ name amount, f name = some amount →
      minAmount ≤ factor * amount ∧ factor * amount ≤ maxAmount) :
    ∃ scaled, scale list factor = .ok scaled := by
  rw [scale_eq_mapM]
  refine result_mapM_of_forall fun entry hentry => ?_
  obtain ⟨amount, hamount, format, hparse⟩ :=
    hlist.of_get (Entries.get_of_mem hlist.ordered hentry)
  have hmultiple : amount? (amount * factor) = some (factor * amount) :=
    amount_eq_some_iff.mpr ⟨Int.mul_comm factor amount ▸ hrange _ _ hamount, Int.mul_comm _ _⟩
  exact ⟨_, scale_entry_eq_ok_iff.mpr
    ⟨_, _, hparse, Option.map_eq_some_iff.mpr ⟨_, hmultiple, rfl⟩, rfl⟩⟩

end VirtualApi.ResourceList

import VirtualApi.Proofs.Quantity.Sums

/-!
# Which results are read again

An operation on lists whose texts are all read has exact amounts, name by name. `Settles` says what
becomes of them: an amount out of range is reported under its name, and otherwise every amount is
written down. What is written is read again but for the least amount, whose text is refused by
whatever reads it next. `results_read_but_least` says so of sums, maxima and multiples; a maximum is
never the least amount, and so it is always read again.
-/

namespace VirtualApi.ResourceList

open Quantity

variable {pick : Quantity → Quantity → Option Quantity} {op : Int → Int → Int}
variable {a b list result : ResourceList} {f : String → Option Int} {factor : Int}
  {outcome : Except Failure ResourceList}

/-- The amount is in range. -/
def Fits (amount : Int) : Prop := minAmount ≤ amount ∧ amount ≤ maxAmount

instance (amount : Int) : Decidable (Fits amount) := inferInstanceAs (Decidable (_ ∧ _))

/-- What an operation with these exact amounts comes to. -/
structure Settles (outcome : Except Failure ResourceList) (amounts : String → Option Int) :
    Prop where
  /-- There is a result as long as every amount is in range. -/
  defined : (∃ result, outcome = .ok result) ↔
    ∀ name amount, amounts name = some amount → Fits amount
  /-- A failure names an amount that is out of range. -/
  reported : ∀ e, outcome = .error e →
    ∃ name amount, e = .overflow name ∧ amounts name = some amount ∧ ¬ Fits amount
  /-- A result has the amounts. -/
  gives : ∀ result, outcome = .ok result → Gives Denotes result amounts
  /-- A result is read again as long as none of the amounts is the least. -/
  read_iff : ∀ result, outcome = .ok result →
    (result.Readable ↔ ∀ name, amounts name ≠ some minAmount)

/-! ## From the amounts of a result -/

/-- What a text stands for is in range. -/
theorem fits_of_denotes {text : String} {amount : Int} (h : Denotes text amount) : Fits amount := by
  rcases h with ⟨format, hparse⟩ | ⟨-, rfl⟩
  · exact in_range_of_natAbs_le (natAbs_le_of_parse hparse)
  · exact show minAmount ≤ minAmount ∧ minAmount ≤ maxAmount by decide

/-- An amount that is given stands under its name. -/
theorem Gives.exists_text {R : String → Int → Prop} {name : String} {amount : Int}
    (h : Gives R list f) (hamount : f name = some amount) :
    ∃ text, list.get? name = some text ∧ R text amount := by
  cases hget : list.get? name with
  | none => exact nomatch (h.of_get_none hget).symm.trans hamount
  | some text =>
      obtain ⟨given, hgiven, hR⟩ := h.of_get hget
      cases hgiven.symm.trans hamount
      exact ⟨text, rfl, hR⟩

/-- A list whose texts are read as some amounts is readable. -/
theorem Gives.readable (h : Gives Reads list f) : list.Readable where
  ordered := h.ordered
  reads entry hentry := by
    obtain ⟨amount, -, hreads⟩ := h.of_get (Entries.get_of_mem h.ordered hentry)
    exact ⟨amount, hreads⟩

/-- Texts that stand for amounts are all read exactly when none of the amounts is the least. -/
theorem Gives.readable_iff (h : Gives Denotes list f) :
    list.Readable ↔ ∀ name, f name ≠ some minAmount := by
  refine ⟨fun hreadable name hleast => ?_, fun hleast => (h.reads hleast).readable⟩
  rw [h.eq hreadable.gives.denotes] at hleast
  obtain ⟨text, -, format, hparse⟩ := hreadable.gives.exists_text hleast
  exact ne_min_of_natAbs_le (natAbs_le_of_parse hparse) rfl

/-- An operation settles its amounts when its failures name one that is out of range and its
results have all of them. -/
theorem settles_of {amounts : String → Option Int}
    (hreported : ∀ e, outcome = .error e →
      ∃ name amount, e = .overflow name ∧ amounts name = some amount ∧ ¬ Fits amount)
    (hgives : ∀ result, outcome = .ok result → Gives Denotes result amounts) :
    Settles outcome amounts where
  defined := by
    constructor
    · intro ⟨result, hresult⟩ name amount hamount
      obtain ⟨text, -, hdenotes⟩ := (hgives result hresult).exists_text hamount
      exact fits_of_denotes hdenotes
    · intro hfits
      cases houtcome : outcome with
      | ok result => exact ⟨result, rfl⟩
      | error e =>
          obtain ⟨name, amount, -, hamount, hnot⟩ := hreported e houtcome
          exact absurd (hfits name amount hamount) hnot
  reported := hreported
  gives := hgives
  read_iff result hresult := (hgives result hresult).readable_iff

/-! ## Merging and scaling -/

/-- The operation on quantities is this one on amounts, and has a result wherever that is in
range. -/
structure Checks (pick : Quantity → Quantity → Option Quantity) (op : Int → Int → Int) : Prop where
  combines : Combines pick op
  defined : ∀ a b : Quantity, Fits (op a.millis b.millis) → (pick a b).isSome

/-- Addition is such an operation. -/
theorem add_checks : Checks Quantity.add? (· + ·) where
  combines := add_combines
  defined a b h := by
    unfold Quantity.add?
    rw [amount_eq_some_iff.mpr ⟨h, rfl⟩]
    rfl

/-- So is the larger of two. -/
theorem max_checks : Checks (fun a b => some (Quantity.max a b)) Max.max where
  combines := max_combines
  defined _ _ _ := rfl

/-- The text under a name of a readable list has an amount. -/
theorem Readable.exists_parse {name text : String} (h : list.Readable)
    (hget : list.get? name = some text) :
    ∃ q, parse text = .ok q ∧ list.amount? name = some q.millis := by
  obtain ⟨amount, hamount, format, hparse⟩ := h.gives.of_get hget
  exact ⟨_, hparse, hamount⟩

/-- A quantity that cannot be merged in has no combination with what is there. -/
theorem merge_one_reports {name text : String} {right : Quantity} {e : Failure} (ha : a.Readable)
    (hright : parse text = .ok right) (h : mergeOne pick a name text = .error e) :
    e = .overflow name ∧ ∃ left, a.amount? name = some left.millis ∧ pick left right = none := by
  rcases result_bind_eq_error_iff.mp h with hunread | ⟨right', hright', hmerge⟩
  · cases hright.symm.trans hunread
  · cases hright.symm.trans hright'
    cases hget : Entries.get? name a with
    | none =>
        rw [hget] at hmerge
        cases hmerge
    | some own =>
        obtain ⟨left, hleft, hamount⟩ := ha.exists_parse hget
        rw [hget] at hmerge
        rcases result_bind_eq_error_iff.mp hmerge with hunread | ⟨left', hleft', hpick⟩
        · cases hleft.symm.trans hunread
        · cases hleft.symm.trans hleft'
          split at hpick
          · cases hpick
          · next hnone =>
              cases hpick
              exact ⟨rfl, left, hamount, hnone⟩

/-- Merging readable lists settles the combined amounts. -/
theorem merge_settles (hpick : Checks pick op) (ha : a.Readable) (hb : b.Readable) :
    Settles (merge pick a b) fun name => Option.merge op (a.amount? name) (b.amount? name) := by
  refine settles_of (fun e herror => ?_) fun result hresult =>
    merge_gives hpick.combines ha.gives.denotes hb.gives.denotes hresult
  rw [merge_eq_foldlM] at herror
  obtain ⟨⟨name, text⟩, hentry, before, hstep⟩ := exists_failed_step herror
  obtain ⟨right, hright, hrightAmount⟩ := hb.exists_parse (Entries.get_of_mem hb.ordered hentry)
  have hone : mergeOne pick a name text = .error e := result_bind_pure_eq_error_iff.mp hstep
  obtain ⟨rfl, left, hleftAmount, hnone⟩ := merge_one_reports ha hright hone
  refine ⟨name, op left.millis right.millis, rfl, ?_, fun hfits => ?_⟩
  · rw [hleftAmount, hrightAmount, Option.merge_some_some]
  · have hsome := hpick.defined left right hfits
    rw [hnone] at hsome
    cases hsome

/-- Scaling a readable list settles the multiples. -/
theorem scale_settles (hlist : list.Readable) (factor : Int) :
    Settles (scale list factor) fun name => (list.amount? name).map (factor * ·) := by
  refine settles_of (fun e herror => ?_) fun result hresult =>
    scale_gives hlist.gives.denotes hresult
  rw [scale_eq_mapM, result_mapM_eq_error_iff] at herror
  obtain ⟨before, ⟨name, text⟩, after, rfl, -, hfails⟩ := herror
  have hget := Entries.get_of_mem hlist.ordered (List.mem_append_right before List.mem_cons_self)
  obtain ⟨q, hparse, hamount⟩ := hlist.exists_parse hget
  unfold scaleEntry at hfails
  rcases result_bind_eq_error_iff.mp hfails with hunread | ⟨q', hq', hscale⟩
  · cases hparse.symm.trans hunread
  · cases hparse.symm.trans hq'
    split at hscale
    · cases hscale
    · next hnone =>
        cases hscale
        refine ⟨name, factor * q.millis, rfl, by rw [hamount, Option.map_some], fun hfits => ?_⟩
        have hmultiple : VirtualApi.amount? (q.millis * factor) = some (factor * q.millis) :=
          amount_eq_some_iff.mpr ⟨Int.mul_comm factor q.millis ▸ hfits, Int.mul_comm _ _⟩
        unfold Quantity.scale? at hnone
        rw [hmultiple] at hnone
        cases hnone

/-! ## Reading results again -/

/-- An amount of a readable list has a magnitude that is read. -/
theorem Readable.natAbs_le {name : String} {amount : Int} (h : list.Readable)
    (hamount : list.amount? name = some amount) : (amount.natAbs : Int) ≤ maxAmount := by
  obtain ⟨text, -, format, hparse⟩ := h.gives.exists_text hamount
  exact natAbs_le_of_parse hparse

/-- The larger of two amounts has a magnitude that is read when both have. -/
theorem natAbs_le_of_merge_max {first second : Option Int} {amount : Int}
    (hfirst : ∀ n, first = some n → (n.natAbs : Int) ≤ maxAmount)
    (hsecond : ∀ n, second = some n → (n.natAbs : Int) ≤ maxAmount)
    (h : Option.merge Max.max first second = some amount) : (amount.natAbs : Int) ≤ maxAmount := by
  cases first with
  | none =>
      rw [Option.merge_none_left] at h
      exact hsecond amount h
  | some x =>
      cases second with
      | none =>
          rw [Option.merge_none_right] at h
          exact hfirst amount h
      | some y =>
          rw [Option.merge_some_some] at h
          cases h
          rcases Int.le_total x y with hle | hle
          · rw [Int.max_eq_right hle]
            exact hsecond y rfl
          · rw [Int.max_eq_left hle]
            exact hfirst x rfl

/-- The maximum of readable lists is there, and it is readable. -/
theorem max_readable (ha : a.Readable) (hb : b.Readable) :
    ∃ result, max a b = .ok result ∧ result.Readable ∧
      Gives Reads result fun name => Option.merge Max.max (a.amount? name) (b.amount? name) := by
  have hsettles := merge_settles max_checks ha hb
  have hread (name : String) (amount : Int)
      (h : Option.merge Max.max (a.amount? name) (b.amount? name) = some amount) :
      (amount.natAbs : Int) ≤ maxAmount :=
    natAbs_le_of_merge_max (fun _ hamount => ha.natAbs_le hamount)
      (fun _ hamount => hb.natAbs_le hamount) h
  obtain ⟨result, hresult⟩ := hsettles.defined.mpr fun name amount h =>
    in_range_of_natAbs_le (q := ⟨amount, .decimalSI⟩) (hread name amount h)
  have hgives := (hsettles.gives result hresult).reads fun name h =>
    ne_min_of_natAbs_le (hread name minAmount h) rfl
  exact ⟨result, hresult, hgives.readable, hgives⟩

/-- A sum, a multiple and a maximum of readable lists. The first two have a result when all of their
exact amounts are in range, and otherwise report one that is not, under its name; the result is read
again unless one of its amounts is the least. The maximum is always there and always read again. -/
theorem results_read_but_least (a b : ResourceList) (factor : Int) (ha : a.Readable)
    (hb : b.Readable) :
    (Settles (add a b) fun name => Option.merge (· + ·) (a.amount? name) (b.amount? name)) ∧
    (Settles (scale a factor) fun name => (a.amount? name).map (factor * ·)) ∧
    ∃ result, max a b = .ok result ∧ result.Readable ∧
      Gives Reads result fun name => Option.merge Max.max (a.amount? name) (b.amount? name) :=
  ⟨merge_settles add_checks ha hb, scale_settles ha factor, max_readable ha hb⟩

/-- Half of the least amount. -/
def halfOfLeast : ResourceList := [("cpu", "-85070591730234615865843651857942052864m")]

/-- Twice the half is written down but not read again, and three times the half is reported. -/
theorem half_of_least_is_scaled :
    halfOfLeast.Readable ∧
    scale halfOfLeast 2 = .ok [("cpu", "-170141183460469231731687303715884105728m")] ∧
    ¬ ResourceList.Readable [("cpu", "-170141183460469231731687303715884105728m")] ∧
    scale halfOfLeast 3 = .error (.overflow "cpu") ∧
    (∃ name amount, Failure.overflow "cpu" = .overflow name ∧
      (halfOfLeast.amount? name).map (3 * ·) = some amount ∧ ¬ Fits amount) := by
  have hhalf : halfOfLeast.Readable := by decide
  have htwice : scale halfOfLeast 2 =
      .ok [("cpu", "-170141183460469231731687303715884105728m")] := by rfl
  have hthrice : scale halfOfLeast 3 = .error (.overflow "cpu") := by rfl
  have hleast : (halfOfLeast.amount? "cpu").map (2 * ·) = some minAmount := by decide
  obtain ⟨-, htwo, -⟩ := results_read_but_least halfOfLeast halfOfLeast 2 hhalf hhalf
  obtain ⟨-, hthree, -⟩ := results_read_but_least halfOfLeast halfOfLeast 3 hhalf hhalf
  exact ⟨hhalf, htwice, fun hread => (htwo.read_iff _ htwice).mp hread "cpu" hleast, hthrice,
    hthree.reported _ hthrice⟩

/-- A sum of readable lists need not be readable: the two halves of the least amount have one, which
the next operation refuses. -/
theorem least_sum_is_not_read :
    ¬ ∀ a b result : ResourceList, a.Readable → b.Readable → add a b = .ok result →
      result.Readable := by
  intro hall
  have hsum : add halfOfLeast halfOfLeast =
      .ok [("cpu", "-170141183460469231731687303715884105728m")] := by rfl
  have hread := hall _ _ _ (by decide) (by decide) hsum
  revert hread
  decide

end VirtualApi.ResourceList

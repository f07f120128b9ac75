import Mathlib.Algebra.Order.Ring.Int
import VirtualApi.Proofs.Quantity.ResourceList

/-!
# Sums and maxima of resource lists

A sequence of resource lists is put together by a `Grouping`: in any order and with any brackets. As
long as the amounts under each name stay within the range together, every grouping has a result,
and `Grouping.eval_gives` says which amounts it gives: they depend on the amounts of the lists
alone, not on their texts. `list_arithmetic_exact` states it for sums and maxima, with the law that
scaling distributes over a sum. `sum_of_lists` says the same of any sum that there is, whatever the
range.
-/

namespace VirtualApi.ResourceList

open Quantity

/-! ## Amounts of a sequence of lists -/

/-- The amount that the text under a name is read as. -/
def amount? (list : ResourceList) (name : String) : Option Int :=
  (list.get? name).bind fun text => (parse text).toOption.map (·.millis)

/-- The names that a list mentions. -/
def names (list : ResourceList) : List String := list.map Prod.fst

/-- The list is in name order, and each of its texts is read as a quantity. -/
structure Readable (list : ResourceList) : Prop where
  ordered : list.Ordered
  reads : ∀ entry ∈ list, ∃ amount, Reads entry.2 amount

/-- The amounts that some lists give a name, in their order; lists that do not mention the name give
none. -/
def mentions (lists : List ResourceList) (name : String) : List Int :=
  lists.filterMap fun list => list.amount? name

/-- The sum of some amounts; no amounts have none. -/
def total? (amounts : List Int) : Option Int := if amounts = [] then none else some amounts.sum

/-- Amounts put together by an operation; no amounts have none. -/
def pooled? (op : Int → Int → Int) (amounts : List Int) : Option Int :=
  amounts.foldr (fun amount rest => Option.merge op (some amount) rest) none

/-- Every list is readable, and the amounts of each name stay within the range together. -/
structure Bounded (lists : List ResourceList) : Prop where
  readable : ∀ list ∈ lists, list.Readable
  range : ∀ name, (((mentions lists name).map Int.natAbs).sum : Int) ≤ maxAmount

/-- Under each name, the multiples of the amounts and of their sum stay within the range. -/
def MultiplesBounded (factor : Int) (lists : List ResourceList) : Prop :=
  ∀ name, ∀ amount ∈ (mentions lists name).sum :: mentions lists name,
    ((factor * amount).natAbs : Int) ≤ maxAmount

variable {pick : Quantity → Quantity → Option Quantity} {op : Int → Int → Int}
variable {list : ResourceList} {lists : List ResourceList} {f : String → Option Int}

/-- A readable list gives the amounts that its texts are read as. -/
theorem Readable.gives (h : list.Readable) : Gives Reads list list.amount? := by
  refine ⟨h.ordered, fun name => ?_⟩
  unfold amount?
  cases hget : list.get? name with
  | none => exact .none
  | some text =>
      obtain ⟨amount, format, hparse⟩ := h.reads _ (Entries.mem_of_get hget)
      simp only [Option.bind_some, hparse, Except.toOption, Option.map_some]
      exact .some ⟨format, hparse⟩

/-- A list has the names of the amounts that it gives. -/
theorem Gives.mem_names_iff {R : String → Int → Prop} (h : Gives R list f) (name : String) :
    name ∈ list.names ↔ (f name).isSome := by
  unfold names
  cases hget : list.get? name with
  | none =>
      rw [h.of_get_none hget]
      have hnot : name ∉ list.map Prod.fst := by
        intro hmem
        obtain ⟨entry, hentry, heq⟩ := List.mem_map.mp hmem
        exact Entries.get_eq_none_iff.mp hget entry hentry heq
      simp [hnot]
  | some text =>
      obtain ⟨amount, hamount, -⟩ := h.of_get hget
      rw [hamount]
      simpa using ⟨text, Entries.mem_of_get hget⟩

/-- Some list mentions a name exactly when it is a name of some list. -/
theorem mentions_ne_nil_iff (h : ∀ list ∈ lists, list.Readable) (name : String) :
    mentions lists name ≠ [] ↔ ∃ list ∈ lists, name ∈ list.names := by
  constructor
  · intro hne
    obtain ⟨amount, hamount⟩ := List.exists_mem_of_ne_nil _ hne
    obtain ⟨list, hlist, heq⟩ := List.mem_filterMap.mp hamount
    exact ⟨list, hlist, ((h list hlist).gives.mem_names_iff name).mpr (by rw [heq]; rfl)⟩
  · rintro ⟨list, hlist, hname⟩
    obtain ⟨amount, heq⟩ :=
      Option.isSome_iff_exists.mp (((h list hlist).gives.mem_names_iff name).mp hname)
    exact List.ne_nil_of_mem (List.mem_filterMap.mpr ⟨list, hlist, heq⟩)

/-! ## Checking the conditions -/

/-- Whether a list is readable can be computed. -/
theorem readable_iff :
    list.Readable ↔ list.Ordered ∧ ∀ entry ∈ list, (parse entry.2).isOk = true := by
  have htext (text : String) : (∃ amount, Reads text amount) ↔ (parse text).isOk = true := by
    cases hparse : parse text with
    | error e =>
        refine ⟨fun ⟨_, _, h⟩ => ?_, fun h => (nomatch h)⟩
        rw [hparse] at h
        cases h
    | ok q => exact ⟨fun _ => rfl, fun _ => ⟨_, Reads.of_parse hparse⟩⟩
  simp only [← htext]
  exact ⟨fun h => ⟨h.ordered, h.reads⟩, fun h => ⟨h.1, h.2⟩⟩

instance (list : ResourceList) : Decidable list.Readable := decidable_of_iff _ readable_iff.symm

/-- What holds of no amounts holds of the amounts of every name when it does for the names that
occur in the lists. -/
theorem forall_names_iff {P : List Int → Prop} (hnone : P []) :
    (∀ name, P (mentions lists name)) ↔
      ∀ name ∈ lists.flatMap names, P (mentions lists name) := by
  refine ⟨fun h name _ => h name, fun h name => ?_⟩
  cases hmentions : mentions lists name with
  | nil => exact hnone
  | cons amount rest =>
      obtain ⟨list, hlist, hamount⟩ :=
        List.mem_filterMap.mp (show amount ∈ mentions lists name by simp [hmentions])
      obtain ⟨text, hget, -⟩ := Option.bind_eq_some_iff.mp hamount
      rw [← hmentions]
      refine h name (List.mem_flatMap.mpr ⟨list, hlist, ?_⟩)
      exact List.mem_map.mpr ⟨_, Entries.mem_of_get hget, rfl⟩

/-- Whether lists are bounded together can be computed. -/
theorem bounded_iff :
    Bounded lists ↔ (∀ list ∈ lists, list.Readable) ∧ ∀ name ∈ lists.flatMap names,
      (((mentions lists name).map Int.natAbs).sum : Int) ≤ maxAmount := by
  rw [← forall_names_iff (P := fun amounts => ((amounts.map Int.natAbs).sum : Int) ≤ maxAmount)
    (by decide)]
  exact ⟨fun h => ⟨h.readable, h.range⟩, fun h => ⟨h.1, h.2⟩⟩

instance (lists : List ResourceList) : Decidable (Bounded lists) :=
  decidable_of_iff _ bounded_iff.symm

instance (factor : Int) (lists : List ResourceList) : Decidable (MultiplesBounded factor lists) :=
  decidable_of_iff
    (∀ name ∈ lists.flatMap names, ∀ amount ∈ (mentions lists name).sum :: mentions lists name,
      ((factor * amount).natAbs : Int) ≤ maxAmount)
    (forall_names_iff (P := fun amounts => ∀ amount ∈ amounts.sum :: amounts,
      ((factor * amount).natAbs : Int) ≤ maxAmount) (by simp; decide)).symm

/-! ## Putting amounts together -/

/-- The sum is what addition puts together. -/
theorem pooled_add (amounts : List Int) : pooled? (· + ·) amounts = total? amounts := by
  induction amounts with
  | nil => rfl
  | cons amount rest ih =>
      unfold pooled? at ih ⊢
      rw [List.foldr_cons, ih]
      cases rest <;> simp [total?]

/-- The maximum is what the larger of two puts together. -/
theorem pooled_max (amounts : List Int) : pooled? Max.max amounts = amounts.max? := by
  induction amounts with
  | nil => rfl
  | cons amount rest ih =>
      unfold pooled? at ih ⊢
      rw [List.foldr_cons, ih, List.max?_cons]
      cases rest.max? <;> rfl

/-- Two sequences are put together one after the other. -/
theorem pooled_append [Std.Associative op] (first second : List Int) :
    pooled? op (first ++ second) = Option.merge op (pooled? op first) (pooled? op second) := by
  induction first with
  | nil => exact Option.merge_none_left.symm
  | cons amount rest ih =>
      unfold pooled? at ih ⊢
      rw [List.cons_append, List.foldr_cons, List.foldr_cons, ih,
        (Option.associative_merge op).assoc]

/-- The order of the amounts does not count. -/
theorem pooled_perm [Std.Associative op] [Std.Commutative op] {first second : List Int}
    (h : first.Perm second) : pooled? op first = pooled? op second := by
  refine h.foldr_eq' (fun x _ y _ rest => ?_) none
  rw [← (Option.associative_merge op).assoc, ← (Option.associative_merge op).assoc,
    (Option.commutative_merge op).comm (some x)]

/-- The amounts of two lists under a name are put together. -/
theorem pooled_pair (f g : String → Option Int) (name : String) :
    pooled? op ([f, g].filterMap fun given => given name) = Option.merge op (f name) (g name) := by
  cases hf : f name <;> cases hg : g name <;> simp [pooled?, hf, hg]

/-- Lists that are merged one after the other give their amounts put together, name by name. -/
theorem fold_gives [Std.Associative op] (hpick : Combines pick op)
    {amounts : List (String → Option Int)} {base result : ResourceList}
    (hbase : Gives Denotes base f) (hlists : List.Forall₂ (Gives Denotes) lists amounts)
    (h : lists.foldlM (merge pick) base = .ok result) :
    Gives Denotes result fun name =>
      Option.merge op (f name) (pooled? op (amounts.filterMap fun given => given name)) := by
  induction hlists generalizing base f with
  | nil =>
      cases h
      simpa [pooled?] using hbase
  | @cons list given lists amounts hlist _ ih =>
      rw [List.foldlM_cons] at h
      obtain ⟨next, hnext, hrest⟩ := result_bind_eq_ok_iff.mp h
      have hgives := ih (merge_gives hpick hbase hlist hnext) hrest
      have hcons (name : String) :
          pooled? op ((given :: amounts).filterMap fun given => given name) =
            Option.merge op (given name)
              (pooled? op (amounts.filterMap fun given => given name)) := by
        rw [List.filterMap_cons]
        cases given name with
        | none => exact Option.merge_none_left.symm
        | some amount => rfl
      simp only [hcons, ← (Option.associative_merge op).assoc]
      exact hgives

/-- The sum of lists gives the sums of their amounts. -/
theorem sum_gives {amounts : List (String → Option Int)} {result : ResourceList}
    (hlists : List.Forall₂ (Gives Denotes) lists amounts) (h : sum lists = .ok result) :
    Gives Denotes result fun name => total? (amounts.filterMap fun given => given name) := by
  have hgives := fold_gives add_combines (gives_empty Denotes) hlists h
  simpa only [Option.merge_none_left, pooled_add] using hgives

/-- Only where there is nothing there is no total. -/
theorem total_isSome_iff (amounts : List Int) : (total? amounts).isSome ↔ amounts ≠ [] := by
  unfold total?
  split <;> simp_all

/-- What a sum is to the lists that are added up: all their texts are read, its names are theirs,
and under each name it has the sum of the amounts of the lists that mention it. -/
structure SumOf (lists : List ResourceList) (result : ResourceList) : Prop where
  readable : ∀ list ∈ lists, list.Readable
  names : ∀ name, name ∈ result.names ↔ ∃ list ∈ lists, name ∈ list.names
  amounts : Gives Denotes result fun name => total? (mentions lists name)

/-- Where lists in name order have a sum, all their texts are read, and the sum is exact. -/
theorem sum_of_lists {result : ResourceList} (hordered : ∀ list ∈ lists, list.Ordered)
    (h : sum lists = .ok result) : SumOf lists result := by
  have hreadable (list : ResourceList) (hlist : list ∈ lists) : list.Readable := by
    obtain ⟨before, after, hstep⟩ := exists_step_of_mem h hlist
    exact ⟨hordered list hlist, fun entry hentry => reads_of_merge hstep hentry⟩
  have hlists : List.Forall₂ (Gives Denotes) lists (lists.map amount?) := by
    rw [List.forall₂_map_right_iff, List.forall₂_same]
    exact fun list hlist => (hreadable list hlist).gives.denotes
  have hgives := sum_gives hlists h
  simp only [List.filterMap_map] at hgives
  refine ⟨hreadable, fun name => ?_, hgives⟩
  rw [hgives.mem_names_iff, ← mentions_ne_nil_iff hreadable]
  exact total_isSome_iff _

/-- The maximum of lists gives the maxima of their amounts. -/
theorem maximum_gives {amounts : List (String → Option Int)} {result : ResourceList}
    (hlists : List.Forall₂ (Gives Denotes) lists amounts) (h : maximum lists = .ok result) :
    Gives Denotes result fun name => (amounts.filterMap fun given => given name).max? := by
  have hgives := fold_gives max_combines (gives_empty Denotes) hlists h
  simpa only [Option.merge_none_left, pooled_max] using hgives

/-- An operation whose results are no larger than its operands together, and which quantities have
wherever the result is within the range. -/
structure Pooling (pick : Quantity → Quantity → Option Quantity) (op : Int → Int → Int) : Prop where
  combines : Combines pick op
  bound : ∀ a b, (op a b).natAbs ≤ a.natAbs + b.natAbs
  defined : ∀ a b : Quantity, ((op a.millis b.millis).natAbs : Int) ≤ maxAmount → (pick a b).isSome

/-- Addition is such an operation. -/
theorem add_pooling : Pooling Quantity.add? (· + ·) where
  combines := add_combines
  bound := Int.natAbs_add_le
  defined a b h := by
    have hrange : minAmount ≤ a.millis + b.millis ∧ a.millis + b.millis ≤ maxAmount :=
      in_range_of_natAbs_le (q := ⟨a.millis + b.millis, a.format⟩) h
    unfold Quantity.add?
    rw [amount_eq_some_iff.mpr ⟨hrange, rfl⟩]
    rfl

/-- So is the larger of two. -/
theorem max_pooling : Pooling (fun a b => some (Quantity.max a b)) Max.max where
  combines := max_combines
  bound a b := by omega
  defined _ _ _ := rfl

/-- What is put together is no larger than the amounts together. -/
theorem Pooling.natAbs_le (h : Pooling pick op) {amounts : List Int} {result : Int}
    (hresult : pooled? op amounts = some result) :
    result.natAbs ≤ (amounts.map Int.natAbs).sum := by
  induction amounts generalizing result with
  | nil => cases hresult
  | cons amount rest ih =>
      unfold pooled? at ih hresult
      rw [List.foldr_cons] at hresult
      rw [List.map_cons, List.sum_cons]
      cases hrest : rest.foldr (fun amount rest => Option.merge op (some amount) rest) none with
      | none =>
          rw [hrest] at hresult
          cases hresult
          exact Nat.le_add_right _ _
      | some value =>
          rw [hrest] at hresult
          cases hresult
          exact Nat.le_trans (h.bound amount value) (Nat.add_le_add_left (ih hrest) _)

/-! ## Groupings -/

/-- A way to put lists together two at a time. -/
inductive Grouping where
  | empty
  | list (list : ResourceList)
  | join (first second : Grouping)

namespace Grouping

variable {g : Grouping}

/-- The lists in a grouping, from left to right. -/
def members : Grouping → List ResourceList
  | .empty => []
  | .list list => [list]
  | .join first second => first.members ++ second.members

/-- The outcome of an operation on two lists that is applied along a grouping. -/
def eval (combine : ResourceList → ResourceList → Except Failure ResourceList) :
    Grouping → Except Failure ResourceList
  | .empty => .ok []
  | .list list => .ok list
  | .join first second => do
      let a ← first.eval combine
      let b ← second.eval combine
      combine a b

/-- The grouping of a sequence that is put together from the left, after another grouping. -/
def ofList (g : Grouping) (lists : List ResourceList) : Grouping :=
  lists.foldl (fun g list => .join g (.list list)) g

/-- The lists of such a grouping are those of the first and of the sequence. -/
theorem members_of_list (g : Grouping) (sequence : List ResourceList) :
    (ofList g sequence).members = g.members ++ sequence := by
  induction sequence generalizing g with
  | nil => exact (List.append_nil _).symm
  | cons list rest ih =>
      show (ofList (.join g (.list list)) rest).members = _
      rw [ih, members, members, List.append_assoc, List.singleton_append]

/-- Folding over a sequence is applying the operation along its grouping from the left. -/
theorem eval_of_list (combine : ResourceList → ResourceList → Except Failure ResourceList)
    (g : Grouping) (sequence : List ResourceList) :
    (ofList g sequence).eval combine = g.eval combine >>= fun a => sequence.foldlM combine a := by
  induction sequence generalizing g with
  | nil => exact (bind_pure _).symm
  | cons list rest ih =>
      show (ofList (.join g (.list list)) rest).eval combine = _
      rw [ih]
      simp only [eval, bind_assoc, List.foldlM_cons]
      rfl

/-- Along every grouping of lists that are readable and bounded together, the operation has a
result, which gives the amounts put together name by name. -/
theorem eval_gives [Std.Associative op] (hpool : Pooling pick op) (h : Bounded g.members) :
    ∃ result, g.eval (merge pick) = .ok result ∧
      Gives Reads result fun name => pooled? op (mentions g.members name) := by
  induction g with
  | empty => exact ⟨[], rfl, gives_empty Reads⟩
  | list list =>
      refine ⟨list, rfl, ?_⟩
      have hgives := (h.readable list List.mem_cons_self).gives
      have hamounts : (fun name => pooled? op (mentions [list] name)) = list.amount? := by
        funext name
        unfold mentions
        cases hamount : list.amount? name <;> simp [pooled?, hamount]
      show Gives Reads list fun name => pooled? op (mentions [list] name)
      rw [hamounts]
      exact hgives
  | join first second ihFirst ihSecond =>
      have hmentions (name : String) : mentions (first.members ++ second.members) name =
          mentions first.members name ++ mentions second.members name := List.filterMap_append
      have hrange (name : String) :
          ((((mentions first.members name).map Int.natAbs).sum +
            ((mentions second.members name).map Int.natAbs).sum : Nat) : Int) ≤ maxAmount := by
        have hle := h.range name
        rwa [members, hmentions, List.map_append, List.sum_append] at hle
      have hfirst : Bounded first.members :=
        ⟨fun list hlist => h.readable list (List.mem_append_left _ hlist), fun name =>
          Int.le_trans (Int.ofNat_le.mpr (Nat.le_add_right _ _)) (hrange name)⟩
      have hsecond : Bounded second.members :=
        ⟨fun list hlist => h.readable list (List.mem_append_right _ hlist), fun name =>
          Int.le_trans (Int.ofNat_le.mpr (Nat.le_add_left _ _)) (hrange name)⟩
      obtain ⟨a, ha, hagives⟩ := ihFirst hfirst
      obtain ⟨b, hb, hbgives⟩ := ihSecond hsecond
      obtain ⟨c, hc⟩ : ∃ c, merge pick a b = .ok c := by
        refine merge_eq_ok hagives hbgives fun name left right hl hr => ?_
        refine hpool.defined left right (Int.le_trans (Int.ofNat_le.mpr ?_) (hrange name))
        exact Nat.le_trans (hpool.bound _ _)
          (Nat.add_le_add (hpool.natAbs_le hl) (hpool.natAbs_le hr))
      have hcgives := merge_gives hpool.combines hagives.denotes hbgives.denotes hc
      have hamounts : (fun name => Option.merge op (pooled? op (mentions first.members name))
          (pooled? op (mentions second.members name))) =
          fun name => pooled? op (mentions (first.members ++ second.members) name) := by
        funext name
        rw [hmentions, pooled_append]
      rw [hamounts] at hcgives
      refine ⟨c, ?_, hcgives.reads fun name heq => ?_⟩
      · rw [eval, ha, hb]
        exact hc
      · refine ne_min_of_natAbs_le ?_ rfl
        exact Int.le_trans (Int.ofNat_le.mpr (hpool.natAbs_le heq)) (h.range name)

end Grouping

/-! ## Sums and maxima in any order -/

/-- There is a result, which gives these amounts. -/
def Yields (outcome : Except Failure ResourceList) (amounts : String → Option Int) : Prop :=
  ∃ result, outcome = .ok result ∧ Gives Reads result amounts

/-- There is a result; its names are those of the lists, and it gives each name what the amounts
that the lists have for the name make together. -/
def Pools (lists : List ResourceList) (outcome : Except Failure ResourceList)
    (pool : List Int → Option Int) : Prop :=
  ∃ result, outcome = .ok result ∧
    (∀ name, name ∈ result.names ↔ ∃ list ∈ lists, name ∈ list.names) ∧
    Gives Reads result fun name => pool (mentions lists name)

/-- Lists in another order mention a name with the same amounts in another order. -/
theorem mentions_perm {order : List ResourceList} (h : order.Perm lists) (name : String) :
    (mentions order name).Perm (mentions lists name) := by
  unfold mentions
  exact h.filterMap _

/-- What holds of lists together holds of them in any order. -/
theorem Bounded.perm {order : List ResourceList} (h : Bounded lists) (hperm : order.Perm lists) :
    Bounded order := by
  refine ⟨fun list hlist => h.readable list (hperm.mem_iff.mp hlist), fun name => ?_⟩
  rw [((mentions_perm hperm name).map Int.natAbs).sum_nat]
  exact h.range name

/-- Nothing is put together only where there is nothing. -/
theorem pooled_isSome_iff (amounts : List Int) : (pooled? op amounts).isSome ↔ amounts ≠ [] := by
  cases amounts with
  | nil => simp [pooled?]
  | cons amount rest =>
      unfold pooled?
      rw [List.foldr_cons]
      cases rest.foldr (fun amount rest => Option.merge op (some amount) rest) none <;> simp

/-- An operation along any grouping of the lists, in any order, pools them. -/
theorem pools_of_grouping [Std.Associative op] [Std.Commutative op] (hpool : Pooling pick op)
    (h : Bounded lists) {g : Grouping} (hperm : g.members.Perm lists) :
    Pools lists (g.eval (merge pick)) (pooled? op) := by
  obtain ⟨result, heval, hgives⟩ := Grouping.eval_gives hpool (h.perm hperm)
  have hamounts : (fun name => pooled? op (mentions g.members name)) =
      fun name => pooled? op (mentions lists name) := by
    funext name
    exact pooled_perm (mentions_perm hperm name)
  rw [hamounts] at hgives
  refine ⟨result, heval, fun name => ?_, hgives⟩
  rw [hgives.mem_names_iff, pooled_isSome_iff, mentions_ne_nil_iff h.readable]

/-- So does folding over the lists in any order. -/
theorem pools_of_fold [Std.Associative op] [Std.Commutative op] (hpool : Pooling pick op)
    (h : Bounded lists) {order : List ResourceList} (hperm : order.Perm lists) :
    Pools lists (order.foldlM (merge pick) []) (pooled? op) := by
  have hgrouping : order.foldlM (merge pick) [] =
      (Grouping.ofList .empty order).eval (merge pick) :=
    (Grouping.eval_of_list (merge pick) .empty order).symm
  rw [hgrouping]
  refine pools_of_grouping hpool h ?_
  rw [Grouping.members_of_list]
  exact hperm

/-! ## Multiples of sums -/

/-- A list of readable texts is scaled to the multiples of its amounts, when these stay within the
range. -/
theorem scale_yields {factor : Int} (h : Gives Reads list f)
    (hscaled : ∀ name amount, f name = some amount →
      ((factor * amount).natAbs : Int) ≤ maxAmount) :
    Yields (scale list factor) fun name => (f name).map (factor * ·) := by
  obtain ⟨scaled, hresult⟩ : ∃ scaled, scale list factor = .ok scaled :=
    scale_eq_ok h fun name amount hamount =>
      in_range_of_natAbs_le (q := ⟨factor * amount, .decimalSI⟩) (hscaled name amount hamount)
  refine ⟨scaled, hresult, (scale_gives h.denotes hresult).reads fun name heq => ?_⟩
  obtain ⟨amount, hamount, hleast⟩ := Option.map_eq_some_iff.mp heq
  exact ne_min_of_natAbs_le (hscaled name amount hamount) hleast

/-- Two lists of readable texts are added to the sums of their amounts, when these stay within the
range. -/
theorem add_yields {a b : ResourceList} {f g : String → Option Int} (ha : Gives Reads a f)
    (hb : Gives Reads b g)
    (hsum : ∀ name amount, Option.merge (· + ·) (f name) (g name) = some amount →
      (amount.natAbs : Int) ≤ maxAmount) :
    Yields (add a b) fun name => Option.merge (· + ·) (f name) (g name) := by
  obtain ⟨sum, hresult⟩ : ∃ sum, add a b = .ok sum := by
    refine merge_eq_ok ha hb fun name left right hl hr => ?_
    refine add_pooling.defined left right (hsum name _ ?_)
    rw [hl, hr, Option.merge_some_some]
  refine ⟨sum, hresult, (merge_gives add_combines ha.denotes hb.denotes hresult).reads ?_⟩
  exact fun name heq => ne_min_of_natAbs_le (hsum name _ heq) rfl

/-- Multiples of amounts are put together to the multiple of what the amounts make together, when
the operation allows it. -/
theorem merge_multiples {factor : Int} (h : ∀ a b, factor * op a b = op (factor * a) (factor * b))
    (x y : Option Int) :
    Option.merge op (x.map (factor * ·)) (y.map (factor * ·)) =
      (Option.merge op x y).map (factor * ·) := by
  cases x <;> cases y <;> simp [h]

/-- The amounts of two lists under a name. -/
theorem total_of_pair (a b : ResourceList) (name : String) :
    total? (mentions [a, b] name) = Option.merge (· + ·) (a.amount? name) (b.amount? name) := by
  rw [← pooled_add]
  exact pooled_pair a.amount? b.amount? name

/-- A total is the sum. -/
theorem eq_sum_of_total {amounts : List Int} {amount : Int} (h : total? amounts = some amount) :
    amount = amounts.sum := by
  unfold total? at h
  split at h <;> cases h
  rfl

/-- Scaling distributes over a sum, as long as what is scaled stays within the range. -/
theorem scale_add_yields {a b : ResourceList} {factor : Int} (h : Bounded [a, b])
    (hscaled : MultiplesBounded factor [a, b]) :
    Yields (do scale (← add a b) factor)
        (fun name => (total? (mentions [a, b] name)).map (factor * ·)) ∧
      Yields (do add (← scale a factor) (← scale b factor))
        (fun name => (total? (mentions [a, b] name)).map (factor * ·)) := by
  have hmentioned (list : ResourceList) (hlist : list ∈ [a, b]) (name : String) (amount : Int)
      (hamount : list.amount? name = some amount) :
      ((factor * amount).natAbs : Int) ≤ maxAmount :=
    hscaled name amount
      (List.mem_cons_of_mem _ (List.mem_filterMap.mpr ⟨list, hlist, hamount⟩))
  have htotal (name : String) (amount : Int)
      (hamount : total? (mentions [a, b] name) = some amount) :
      ((factor * amount).natAbs : Int) ≤ maxAmount := by
    rw [eq_sum_of_total hamount]
    exact hscaled name _ List.mem_cons_self
  constructor
  · obtain ⟨total, hresult, -, hgives⟩ :=
      pools_of_grouping add_pooling h (g := .join (.list a) (.list b)) (List.Perm.refl _)
    simp only [pooled_add] at hgives
    obtain ⟨scaled, hscale, hyields⟩ := scale_yields hgives htotal
    exact ⟨scaled, result_bind_eq_ok_iff.mpr ⟨total, hresult, hscale⟩, hyields⟩
  · have hsecond : b ∈ [a, b] := List.mem_cons_of_mem _ List.mem_cons_self
    obtain ⟨first, hfirst, hfirstGives⟩ :=
      scale_yields (h.readable a List.mem_cons_self).gives (hmentioned a List.mem_cons_self)
    obtain ⟨second, hsecond, hsecondGives⟩ :=
      scale_yields (h.readable b hsecond).gives (hmentioned b hsecond)
    have hsum := add_yields hfirstGives hsecondGives fun name amount hamount => by
      rw [merge_multiples (Int.mul_add factor), ← total_of_pair] at hamount
      obtain ⟨sum, hsum, rfl⟩ := Option.map_eq_some_iff.mp hamount
      exact htotal name sum hsum
    simp only [merge_multiples (Int.mul_add factor), ← total_of_pair] at hsum
    obtain ⟨result, hresult, hgives⟩ := hsum
    exact ⟨result, result_bind_eq_ok_iff.mpr ⟨first, hfirst,
      result_bind_eq_ok_iff.mpr ⟨second, hsecond, hresult⟩⟩, hgives⟩

/-- Sums and maxima of resource lists are exact, and they depend neither on the order nor on the
grouping of the lists: every name of the lists gets the sum, or the maximum, of the amounts that
the lists mentioning it give it, as long as the amounts stay within the range together. Scaling
distributes over a sum, as long as what is scaled stays within the range. -/
theorem list_arithmetic_exact (lists : List ResourceList) (h : Bounded lists) :
    (Pools lists (sum lists) total? ∧ Pools lists (maximum lists) List.max?) ∧
    (∀ order : List ResourceList, order.Perm lists →
      Pools lists (sum order) total? ∧ Pools lists (maximum order) List.max?) ∧
    (∀ g : Grouping, g.members.Perm lists →
      Pools lists (g.eval add) total? ∧ Pools lists (g.eval max) List.max?) ∧
    ∀ (a b : ResourceList) (factor : Int), Bounded [a, b] → MultiplesBounded factor [a, b] →
      Yields (do scale (← add a b) factor)
          (fun name => (total? (mentions [a, b] name)).map (factor * ·)) ∧
        Yields (do add (← scale a factor) (← scale b factor))
          (fun name => (total? (mentions [a, b] name)).map (factor * ·)) := by
  have hadd : pooled? (· + ·) = total? := funext pooled_add
  have hmax : pooled? Max.max = List.max? := funext pooled_max
  have hfold (order : List ResourceList) (hperm : order.Perm lists) :
      Pools lists (sum order) total? ∧ Pools lists (maximum order) List.max? := by
    rw [← hadd, ← hmax]
    exact ⟨pools_of_fold add_pooling h hperm, pools_of_fold max_pooling h hperm⟩
  refine ⟨hfold lists (List.Perm.refl lists), hfold, fun g hperm => ?_,
    fun a b factor => scale_add_yields⟩
  rw [← hadd, ← hmax]
  exact ⟨pools_of_grouping add_pooling h hperm, pools_of_grouping max_pooling h hperm⟩

/-- Two lists in mixed notations, one with a negative amount, are added in either order, and three
times their sum is the sum of three times each. -/
theorem mixed_lists_pool :
    Bounded [[("cpu", "1500m"), ("memory", "1Gi")], [("cpu", "-2"), ("storage", "5e3")]] ∧
    Pools [[("cpu", "1500m"), ("memory", "1Gi")], [("cpu", "-2"), ("storage", "5e3")]]
      (sum [[("cpu", "-2"), ("storage", "5e3")], [("cpu", "1500m"), ("memory", "1Gi")]]) total? ∧
    Yields (do
        let a ← scale [("cpu", "1500m"), ("memory", "1Gi")] 3
        let b ← scale [("cpu", "-2"), ("storage", "5e3")] 3
        add a b)
      fun name => (total? (mentions [[("cpu", "1500m"), ("memory", "1Gi")],
        [("cpu", "-2"), ("storage", "5e3")]] name)).map (3 * ·) := by
  have hbounded : Bounded
      [[("cpu", "1500m"), ("memory", "1Gi")], [("cpu", "-2"), ("storage", "5e3")]] := by
    decide
  have hmultiples : MultiplesBounded 3
      [[("cpu", "1500m"), ("memory", "1Gi")], [("cpu", "-2"), ("storage", "5e3")]] := by
    decide
  obtain ⟨-, horder, -, hscale⟩ := list_arithmetic_exact _ hbounded
  exact ⟨hbounded, (horder _ (List.Perm.swap _ _ _)).1, (hscale _ _ 3 hbounded hmultiples).2⟩

end VirtualApi.ResourceList

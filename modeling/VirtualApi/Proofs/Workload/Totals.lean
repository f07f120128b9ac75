import VirtualApi.Proofs.Json.Ordered
import VirtualApi.Proofs.Quantity.Sums
import VirtualApi.Workload.Metrics

/-!
# What a workload asks for

The items of a manifest that ask for resources are its app containers, its init containers and, for
stateful sets, its claim templates. `demand` says what one pod asks for of a resource, straight from
the amounts in the manifest. `totals_closed_form` says that the total, which is computed list by
list and through the texts of quantities, is the number of pods times that, and that the lists by
role agree with it.
-/

namespace VirtualApi

open ResourceList

/-- The amount that a value stands for as a quantity: a text, or the notation of a number. -/
def Json.amount? : Json → Option Int
  | .str s => (Quantity.parse s).toOption.map (·.millis)
  | .num n => (Quantity.parse n.text).toOption.map (·.millis)
  | _ => none

namespace Workload

open MetricsResult (ofQuantity)

/-! ## The parts of a manifest that ask for resources -/

/-- The three kinds of items that ask for resources. -/
inductive Part where
  | app
  | init
  | claim
deriving DecidableEq, Repr

namespace Part

/-- The items of a manifest that are of this part; only stateful sets have claim templates. -/
def items (w : Workload) (object : Json) : Part → List Json
  | .app => (((w.podSpec object).bind (Json.get? "containers")).bind Json.arr?).getD []
  | .init => (((w.podSpec object).bind (Json.get? "initContainers")).bind Json.arr?).getD []
  | .claim =>
      if w = .statefulSet then
        ((object.at? ["spec", "volumeClaimTemplates"]).bind Json.arr?).getD []
      else []

/-- Where an item of the part lists its resources. -/
def path (field : ResourceField) : Part → List String
  | .app | .init => ["resources", field.name]
  | .claim => ["spec", "resources", field.name]

/-- What an item of the part says of a resource. -/
def resource? (part : Part) (field : ResourceField) (item : Json) (name : String) : Option Json :=
  item.at? (part.path field ++ [name])

/-- The amount that an item of the part asks for of a resource. -/
def amount? (part : Part) (field : ResourceField) (item : Json) (name : String) : Option Int :=
  (part.resource? field item name).bind Json.amount?

end Part

variable {w : Workload} {object : Json} {field : ResourceField} {part : Part} {name : String}
  {list : ResourceList} {lists : List ResourceList} {roles : ByRole ResourceList} {n : Int}

/-- The amounts that the items of a part ask for of a resource, in their order. -/
def asked (w : Workload) (object : Json) (field : ResourceField) (part : Part) (name : String) :
    List Int :=
  (part.items w object).filterMap fun item => part.amount? field item name

/-- What one pod asks for of a resource: the larger of what its app containers ask for together and
of what the most demanding init container asks for, whichever of the two ask for it, and its storage
claims. -/
def demand (w : Workload) (object : Json) (field : ResourceField) (name : String) : Option Int :=
  Option.merge (· + ·)
    (Option.merge Max.max (total? (w.asked object field .app name))
      (w.asked object field .init name).max?)
    (total? (w.asked object field .claim name))

/-- Whatever the items of a part say of a resource is a quantity. -/
def Legible (w : Workload) (object : Json) (field : ResourceField) (part : Part) : Prop :=
  ∀ item ∈ part.items w object, ∀ name value,
    part.resource? field item name = some value → ∃ amount, value.amount? = some amount

/-! ## Reading the lists -/

/-- Passing on the outcome of an operation on quantities changes only what a failure is called. -/
theorem of_quantity_eq_ok_iff {α : Type} {result : Except Quantity.Failure α} {a : α} :
    ofQuantity result = .ok a ↔ result = .ok a := by
  cases result with
  | error failure => exact ⟨fun h => (nomatch h), fun h => (nomatch h)⟩
  | ok b => exact ⟨fun h => congrArg Except.ok (Except.ok.inj h), fun h => congrArg _ h⟩

/-- An entry that is taken keeps its name, and its text is read as the amount of the value. -/
theorem resource_entry_eq_ok {label : String} {entry : String × Json} {result : String × String}
    (h : resourceEntry label entry = .ok result) :
    result.1 = entry.1 ∧
      ∃ amount, entry.2.amount? = some amount ∧ Quantity.Reads result.2 amount := by
  obtain ⟨text, htext, h⟩ := result_bind_eq_ok_iff.mp h
  obtain ⟨q, hq, h⟩ := result_bind_eq_ok_iff.mp h
  cases h
  have hparse := of_quantity_eq_ok_iff.mp hq
  refine ⟨rfl, q.millis, ?_, .of_parse hparse⟩
  obtain ⟨key, value⟩ := entry
  cases value with
  | str s =>
      cases htext
      simp [Json.amount?, hparse, Except.toOption]
  | num number =>
      cases htext
      simp [Json.amount?, hparse, Except.toOption]
  | _ => cases htext

/-- A list that is read at a path of an item gives the amounts that stand there, and nothing else
stands there. -/
theorem resource_list_gives {label : String} {item : Json} {path : List String}
    (hitem : item.Ordered) (h : resourceList label (item.at? path) = .ok list) :
    (Gives Quantity.Reads list fun name => (item.at? (path ++ [name])).bind Json.amount?) ∧
      ∀ name value, item.at? (path ++ [name]) = some value →
        ∃ amount, value.amount? = some amount := by
  simp only [Json.at_append]
  cases hgiven : item.at? path with
  | none =>
      rw [hgiven] at h
      cases h
      exact ⟨gives_empty _, fun _ _ hvalue => nomatch hvalue⟩
  | some given =>
      rw [hgiven] at h
      cases given with
      | obj entries =>
          have hentries : Entries.Ordered entries := (Json.ordered_obj_iff.mp (hitem.at hgiven)).1
          have hmatching : Entries.Matching (fun _ value text =>
              ∃ amount, value.amount? = some amount ∧ Quantity.Reads text amount) entries list :=
            (result_mapM_eq_ok_iff.mp h).imp fun _ _ => resource_entry_eq_ok
          have hat (name : String) :
              (some (Json.obj entries)).bind (Json.at? [name]) = Entries.get? name entries :=
            Option.bind_fun_some _
          simp only [hat]
          refine ⟨⟨hmatching.ordered hentries, fun name => ?_⟩, fun name value hvalue => ?_⟩
          · obtain ⟨hnone, hsome⟩ := hmatching.get name
            cases hvalue : Entries.get? name entries with
            | none =>
                rw [hnone hvalue]
                exact .none
            | some value =>
                obtain ⟨text, htext, amount, hamount, hreads⟩ := hsome value hvalue
                rw [htext, Option.bind_some, hamount]
                exact .some hreads
          · obtain ⟨text, -, amount, hamount, -⟩ := (hmatching.get name).2 value hvalue
            exact ⟨amount, hamount⟩
      | _ => cases h

/-- The containers that are read are those of the part. -/
theorem containers_eq_ok {podSpec : Option Json} {key : String} {items : List Json}
    (h : containers podSpec key = .ok items) :
    ((podSpec.bind (Json.get? key)).bind Json.arr?).getD [] = items := by
  unfold containers at h
  split at h
  · next heq =>
      cases h
      rw [heq]
      rfl
  · next heq =>
      cases h
      rw [heq]
      rfl
  · next heq =>
      cases h
      rw [heq]
      rfl
  · cases h

/-- The items of a manifest in order are in order. -/
theorem items_ordered (hobject : object.Ordered) : ∀ item ∈ part.items w object, item.Ordered := by
  have harray {value : Option Json} (hvalue : ∀ v, value = some v → v.Ordered) :
      ∀ item ∈ (value.bind Json.arr?).getD [], item.Ordered := by
    intro item hitem
    cases value with
    | none => cases hitem
    | some v =>
        cases v with
        | arr items => exact Json.ordered_arr_iff.mp (hvalue _ rfl) item hitem
        | _ => cases hitem
  have hfield (key : String) :
      ∀ v, (w.podSpec object).bind (Json.get? key) = some v → v.Ordered := by
    intro v hv
    obtain ⟨podSpec, hpodSpec, hget⟩ := Option.bind_eq_some_iff.mp hv
    exact (hobject.at hpodSpec).get hget
  cases part with
  | app => exact harray (hfield "containers")
  | init => exact harray (hfield "initContainers")
  | claim =>
      simp only [Part.items]
      split
      · exact harray fun v => hobject.at
      · exact fun item hitem => nomatch hitem

/-- The lists that are read from items give what the items ask for, and whatever the items say of a
resource is a quantity. -/
theorem lists_give {label : String} {path : List String} {items : List Json}
    (hitems : ∀ item ∈ items, item.Ordered)
    (h : items.mapM (fun item => resourceList label (item.at? path)) = .ok lists) :
    List.Forall₂ (Gives Quantity.Denotes) lists
        (items.map fun item name => (item.at? (path ++ [name])).bind Json.amount?) ∧
      ∀ item ∈ items, ∀ name value, item.at? (path ++ [name]) = some value →
        ∃ amount, value.amount? = some amount := by
  replace h := result_mapM_eq_ok_iff.mp h
  induction h with
  | nil => exact ⟨.nil, fun item hitem => nomatch hitem⟩
  | @cons item list items lists hlist _ ih =>
      obtain ⟨hgives, hlegible⟩ := resource_list_gives (hitems item List.mem_cons_self) hlist
      obtain ⟨hothers, hothersLegible⟩ := ih fun other hother =>
        hitems other (List.mem_cons_of_mem _ hother)
      exact ⟨.cons hgives.denotes hothers, List.forall_mem_cons.mpr ⟨hlegible, hothersLegible⟩⟩

/-! ## Each part of one pod -/

/-- The amounts that are asked for are those of the items, under the name. -/
theorem asked_eq_filter_map (w : Workload) (object : Json) (field : ResourceField) (part : Part)
    (name : String) :
    w.asked object field part name =
      ((part.items w object).map (part.amount? field)).filterMap fun given => given name := by
  rw [List.filterMap_map]
  rfl

/-- The lists that are read from a part give what its items ask for. -/
theorem lists_of_part (part : Part) (hobject : object.Ordered) {label : String}
    (h : (part.items w object).mapM (fun item =>
      resourceList label (item.at? (part.path field))) = .ok lists) :
    List.Forall₂ (Gives Quantity.Denotes) lists
        ((part.items w object).map (part.amount? field)) ∧
      w.Legible object field part :=
  lists_give (items_ordered hobject) h

/-- The app containers of one pod ask for the sums of what they ask for each. -/
theorem app_gives (hobject : object.Ordered) (h : w.app object field = .ok list) :
    (Gives Quantity.Denotes list fun name => total? (w.asked object field .app name)) ∧
      w.Legible object field .app := by
  obtain ⟨lists, hlists, h⟩ := result_bind_eq_ok_iff.mp h
  obtain ⟨items, hitems, hlists⟩ := result_bind_eq_ok_iff.mp hlists
  cases containers_eq_ok hitems
  obtain ⟨hlists, hlegible⟩ := lists_of_part .app hobject hlists
  simp only [asked_eq_filter_map]
  exact ⟨sum_gives hlists (of_quantity_eq_ok_iff.mp h), hlegible⟩

/-- The init containers of one pod ask for the maxima of what they ask for each. -/
theorem init_gives (hobject : object.Ordered) (h : w.init object field = .ok list) :
    (Gives Quantity.Denotes list fun name => (w.asked object field .init name).max?) ∧
      w.Legible object field .init := by
  obtain ⟨lists, hlists, h⟩ := result_bind_eq_ok_iff.mp h
  obtain ⟨items, hitems, hlists⟩ := result_bind_eq_ok_iff.mp hlists
  cases containers_eq_ok hitems
  obtain ⟨hlists, hlegible⟩ := lists_of_part .init hobject hlists
  simp only [asked_eq_filter_map]
  exact ⟨maximum_gives hlists (of_quantity_eq_ok_iff.mp h), hlegible⟩

/-- The claim templates of a stateful set ask for the sums of what they ask for each. -/
theorem claims_give (hobject : object.Ordered) (h : w.claims object field = .ok list) :
    (Gives Quantity.Denotes list fun name => total? (w.asked object field .claim name)) ∧
      w.Legible object field .claim := by
  have hnone (hitems : Part.claim.items w object = []) (hlist : list = []) :
      (Gives Quantity.Denotes list fun name => total? (w.asked object field .claim name)) ∧
        w.Legible object field .claim := by
    unfold Legible asked
    rw [hitems, hlist]
    exact ⟨gives_empty _, fun item hitem => nomatch hitem⟩
  unfold claims at h
  split at h
  · next hkind => exact hnone (if_neg hkind) (Except.ok.inj h).symm
  · next hkind =>
      have hitems : Part.claim.items w object =
          ((object.at? ["spec", "volumeClaimTemplates"]).bind Json.arr?).getD [] :=
        if_pos (Decidable.not_not.mp hkind)
      split at h
      · next heq => exact hnone (by rw [hitems, heq]; rfl) (Except.ok.inj h).symm
      · next heq => exact hnone (by rw [hitems, heq]; rfl) (Except.ok.inj h).symm
      · next templates heq =>
          obtain ⟨lists, hlists, h⟩ := result_bind_eq_ok_iff.mp h
          have htemplates : Part.claim.items w object = templates := by rw [hitems, heq]; rfl
          rw [← htemplates] at hlists
          obtain ⟨hlists, hlegible⟩ := lists_of_part .claim hobject hlists
          simp only [asked_eq_filter_map]
          exact ⟨sum_gives hlists (of_quantity_eq_ok_iff.mp h), hlegible⟩
      · cases h

/-- One pod asks for the larger of its app containers and its init containers. -/
theorem effective_gives (hobject : object.Ordered) (h : w.effective object field = .ok list) :
    (Gives Quantity.Denotes list fun name =>
      Option.merge Max.max (total? (w.asked object field .app name))
        (w.asked object field .init name).max?) ∧
      w.Legible object field .app ∧ w.Legible object field .init := by
  obtain ⟨app, happ, h⟩ := result_bind_eq_ok_iff.mp h
  obtain ⟨init, hinit, h⟩ := result_bind_eq_ok_iff.mp h
  obtain ⟨happGives, happLegible⟩ := app_gives hobject happ
  obtain ⟨hinitGives, hinitLegible⟩ := init_gives hobject hinit
  have hlarger := maximum_gives (.cons happGives (.cons hinitGives .nil))
    (of_quantity_eq_ok_iff.mp h)
  simp only [← pooled_max, pooled_pair] at hlarger ⊢
  exact ⟨hlarger, happLegible, hinitLegible⟩

/-! ## All pods -/

/-- An integer that is given is one of the signed 64-bit range. -/
theorem integer_at_lt {path : List String} (h : integerAt object path = .ok (some n)) :
    n < 2 ^ 63 := by
  unfold integerAt at h
  split at h
  · cases h
  · cases h
  · next value _ _ =>
      split at h
      · next given hgiven =>
          cases h
          unfold Json.int64? at hgiven
          split at hgiven
          · split at hgiven
            · next hrange =>
                cases hgiven
                exact hrange.2
            · cases hgiven
          · cases hgiven
      · cases h

/-- The number of pods is one that is given, or else one. -/
theorem given_of_replicas (h : w.replicas object = .ok n) :
    0 ≤ n ∧ ∃ given : Option Int, (∀ m, given = some m → m < 2 ^ 63) ∧ n = given.getD 1 := by
  have hchecked (given : Option Int)
      (hgiven : (if given.getD 1 < 0 then
          (throw (.malformed "replicas" ("negative count " ++ Decimal.ofInt (given.getD 1))) >>=
            fun _ : Unit => pure (given.getD 1))
        else pure (given.getD 1) : MetricsResult Int) = .ok n) : 0 ≤ n ∧ n = given.getD 1 := by
    split at hgiven
    · cases hgiven
    · next hneg =>
        cases hgiven
        exact ⟨Int.not_lt.mp hneg, rfl⟩
  unfold replicas at h
  dsimp only at h
  split at h
  · obtain ⟨hnonneg, hn⟩ := hchecked none h
    exact ⟨hnonneg, none, nofun, hn⟩
  · obtain ⟨given, hgiven, h⟩ := result_bind_eq_ok_iff.mp h
    obtain ⟨hnonneg, hn⟩ := hchecked given h
    exact ⟨hnonneg, given, fun m hm => integer_at_lt (hm ▸ hgiven), hn⟩

/-- The number of pods is not negative. -/
theorem replicas_nonneg (h : w.replicas object = .ok n) : 0 ≤ n := (given_of_replicas h).1

/-- The number of pods is one of the signed 64-bit range. -/
theorem replicas_lt (h : w.replicas object = .ok n) : n < 2 ^ 63 := by
  obtain ⟨-, given, hlt, rfl⟩ := given_of_replicas h
  cases given with
  | none => decide
  | some m => exact hlt m rfl

/-- The total is the number of pods times what one pod asks for. -/
theorem total_gives (hobject : object.Ordered) (h : w.total object field = .ok list) :
    ∃ n, w.replicas object = .ok n ∧
      (Gives Quantity.Denotes list fun name => (w.demand object field name).map (n * ·)) ∧
      ∀ part, w.Legible object field part := by
  obtain ⟨n, hn, h⟩ := result_bind_eq_ok_iff.mp h
  obtain ⟨pod, hpod, h⟩ := result_bind_eq_ok_iff.mp h
  obtain ⟨pods, hpods, h⟩ := result_bind_eq_ok_iff.mp h
  obtain ⟨claim, hclaim, h⟩ := result_bind_eq_ok_iff.mp h
  obtain ⟨storage, hstorage, h⟩ := result_bind_eq_ok_iff.mp h
  obtain ⟨hpodGives, happLegible, hinitLegible⟩ := effective_gives hobject hpod
  obtain ⟨hclaimGives, hclaimLegible⟩ := claims_give hobject hclaim
  have hsum := sum_gives
    (.cons (scale_gives hpodGives (of_quantity_eq_ok_iff.mp hpods))
      (.cons (scale_gives hclaimGives (of_quantity_eq_ok_iff.mp hstorage)) .nil))
    (of_quantity_eq_ok_iff.mp h)
  simp only [← pooled_add, pooled_pair, merge_multiples (Int.mul_add n)] at hsum
  refine ⟨n, hn, ?_, fun part => ?_⟩
  · simpa only [demand, pooled_add] using hsum
  · cases part with
    | app => exact happLegible
    | init => exact hinitLegible
    | claim => exact hclaimLegible

/-- The lists by role are the number of pods times what the app containers of one pod ask for, and
times what the init containers ask for if there are any. -/
theorem by_role_gives (hobject : object.Ordered) (h : w.byRole object field = .ok roles) :
    ∃ n, w.replicas object = .ok n ∧
      w.roleReplicas object = .ok ⟨n, if roles.init.isSome then some n else none⟩ ∧
      (roles.init.isSome ↔ Part.init.items w object ≠ []) ∧
      (Gives Quantity.Denotes roles.default fun name =>
        (total? (w.asked object field .app name)).map (n * ·)) ∧
      Gives Quantity.Denotes (roles.init.getD []) fun name =>
        (w.asked object field .init name).max?.map (n * ·) := by
  obtain ⟨n, hn, h⟩ := result_bind_eq_ok_iff.mp h
  obtain ⟨pod, hpod, h⟩ := result_bind_eq_ok_iff.mp h
  obtain ⟨app, happ, h⟩ := result_bind_eq_ok_iff.mp h
  obtain ⟨hasInit, hhasInit, h⟩ := result_bind_eq_ok_iff.mp h
  have happGives := scale_gives (app_gives hobject hpod).1 (of_quantity_eq_ok_iff.mp happ)
  have hcounts : w.roleReplicas object = .ok ⟨n, if hasInit then some n else none⟩ :=
    result_bind_eq_ok_iff.mpr ⟨n, hn, result_bind_eq_ok_iff.mpr ⟨hasInit, hhasInit, rfl⟩⟩
  obtain ⟨items, hitems, hempty⟩ := result_bind_eq_ok_iff.mp hhasInit
  have hinit : Part.init.items w object = items := containers_eq_ok hitems
  cases hempty
  cases items with
  | nil =>
      cases h
      refine ⟨n, hn, hcounts, by simp [hinit], happGives, ?_⟩
      have hasked (name : String) : w.asked object field .init name = [] := by
        unfold asked
        rw [hinit]
        rfl
      simp only [hasked]
      exact gives_empty _
  | cons item items =>
      obtain ⟨largest, hlargest, h⟩ := result_bind_eq_ok_iff.mp h
      obtain ⟨init, hscaled, h⟩ := result_bind_eq_ok_iff.mp h
      cases h
      exact ⟨n, hn, hcounts, by simp [hinit], happGives,
        scale_gives (init_gives hobject hlargest).1 (of_quantity_eq_ok_iff.mp hscaled)⟩

/-! ## Totals -/

/-- Amounts of a part are asked for under the names that its items mention. -/
theorem asked_ne_nil_iff (h : w.Legible object field part) :
    w.asked object field part name ≠ [] ↔
      ∃ item ∈ part.items w object, (part.resource? field item name).isSome := by
  unfold asked Part.amount?
  constructor
  · intro hne
    obtain ⟨amount, hamount⟩ := List.exists_mem_of_ne_nil _ hne
    obtain ⟨item, hitem, hbind⟩ := List.mem_filterMap.mp hamount
    obtain ⟨value, hvalue, -⟩ := Option.bind_eq_some_iff.mp hbind
    exact ⟨item, hitem, Option.isSome_of_mem hvalue⟩
  · rintro ⟨item, hitem, hmention⟩
    obtain ⟨value, hvalue⟩ := Option.isSome_iff_exists.mp hmention
    obtain ⟨amount, hamount⟩ := h item hitem name value hvalue
    exact List.ne_nil_of_mem (List.mem_filterMap.mpr
      ⟨item, hitem, Option.bind_eq_some_iff.mpr ⟨value, hvalue, hamount⟩⟩)

/-- One pod asks for a resource when some part asks for it. -/
theorem demand_is_some_iff :
    (w.demand object field name).isSome ↔ ∃ part, w.asked object field part name ≠ [] := by
  have hmerge (op : Int → Int → Int) (x y : Option Int) :
      (Option.merge op x y).isSome ↔ x.isSome ∨ y.isSome := by
    cases x <;> cases y <;> simp
  simp only [demand, ← pooled_add, ← pooled_max, hmerge, pooled_isSome_iff]
  constructor
  · rintro ((h | h) | h)
    · exact ⟨.app, h⟩
    · exact ⟨.init, h⟩
    · exact ⟨.claim, h⟩
  · rintro ⟨part, h⟩
    cases part with
    | app => exact Or.inl (Or.inl h)
    | init => exact Or.inl (Or.inr h)
    | claim => exact Or.inr h

/-- Without storage claims one pod asks for the larger of its app and its init containers. -/
theorem demand_of_no_claims (hw : w ≠ .statefulSet) :
    w.demand object field name =
      Option.merge Max.max (total? (w.asked object field .app name))
        (w.asked object field .init name).max? := by
  have hclaims : w.asked object field .claim name = [] := by
    unfold asked
    rw [show Part.claim.items w object = [] from if_neg hw]
    rfl
  unfold demand
  rw [hclaims]
  exact Option.merge_none_right

/-- The totals of a workload are the closed form. A total has exactly the names that its containers
and, for a stateful set, its claim templates mention, and the amount under each is the number of
pods times what one pod asks for. The lists by role have the same roles as the counts by role, with
the sums of the app containers and the maxima of the init containers times the number of pods; and
where there are no claim templates, the total is name by name the larger of the two. -/
theorem totals_closed_form (w : Workload) (object : Json) (field : ResourceField)
    (hobject : object.Ordered) :
    (∀ list, w.total object field = .ok list →
      ∃ n, w.replicas object = .ok n ∧
        (∀ name, name ∈ list.names ↔
          ∃ part : Part, ∃ item ∈ part.items w object,
            (part.resource? field item name).isSome) ∧
        Gives Quantity.Denotes list fun name => (w.demand object field name).map (n * ·)) ∧
    ∀ roles, w.byRole object field = .ok roles →
      (∃ n, w.replicas object = .ok n ∧
        w.roleReplicas object = .ok ⟨n, if roles.init.isSome then some n else none⟩ ∧
        (roles.init.isSome ↔ Part.init.items w object ≠ []) ∧
        (Gives Quantity.Denotes roles.default fun name =>
          (total? (w.asked object field .app name)).map (n * ·)) ∧
        Gives Quantity.Denotes (roles.init.getD []) fun name =>
          (w.asked object field .init name).max?.map (n * ·)) ∧
      ∀ list, w.total object field = .ok list → w ≠ .statefulSet →
        ∀ default init, Gives Quantity.Denotes roles.default default →
          Gives Quantity.Denotes (roles.init.getD []) init →
          Gives Quantity.Denotes list fun name =>
            Option.merge Max.max (default name) (init name) := by
  constructor
  · intro list h
    obtain ⟨n, hn, hgives, hlegible⟩ := total_gives hobject h
    refine ⟨n, hn, fun name => ?_, hgives⟩
    rw [hgives.mem_names_iff, Option.isSome_map, demand_is_some_iff]
    exact exists_congr fun part => asked_ne_nil_iff (hlegible part)
  · intro roles hroles
    have hrole := by_role_gives hobject hroles
    refine ⟨hrole, fun list h hw default init hdefault hinit => ?_⟩
    obtain ⟨n, hn, -, -, hdefaultGives, hinitGives⟩ := hrole
    obtain ⟨m, hm, hgives, -⟩ := total_gives hobject h
    cases Except.ok.inj (hn.symm.trans hm)
    rw [hdefault.eq hdefaultGives, hinit.eq hinitGives]
    -- The number of pods is not negative, so that it keeps which of two amounts is the larger.
    have hlarger (a b : Int) : n * Max.max a b = Max.max (n * a) (n * b) :=
      mul_max_of_nonneg a b (replicas_nonneg hn)
    simp only [demand_of_no_claims hw, ← merge_multiples hlarger] at hgives
    exact hgives

/-- Three pods of two app containers, one of which asks for a negative amount, and an init container
that asks for something else besides. -/
def migration : Json :=
  .obj [("spec", .obj [("replicas", .int 3), ("template", .obj [("spec", .obj [
    ("containers", .arr [
      .obj [("resources", .obj [("requests",
        .obj [("cpu", .str "1500m"), ("memory", .str "1Gi")])])],
      .obj [("resources", .obj [("requests", .obj [("cpu", .int (-1))])])]]),
    ("initContainers", .arr [
      .obj [("resources", .obj [("requests",
        .obj [("cpu", .str "2"), ("disk", .str "5e3")])])]])])])])]

/-- Its total and its lists by role, and the amounts that they stand for. -/
theorem migration_totals :
    deployment.total migration .requests =
        .ok [("cpu", "6"), ("disk", "15e3"), ("memory", "3Gi")] ∧
      deployment.byRole migration .requests =
        .ok ⟨[("cpu", "1500m"), ("memory", "3Gi")], some [("cpu", "6"), ("disk", "15e3")]⟩ ∧
      (∃ n, deployment.replicas migration = .ok n ∧
        Gives Quantity.Denotes [("cpu", "6"), ("disk", "15e3"), ("memory", "3Gi")] fun name =>
          (deployment.demand migration .requests name).map (n * ·)) ∧
      ∀ default init,
        Gives Quantity.Denotes [("cpu", "1500m"), ("memory", "3Gi")] default →
        Gives Quantity.Denotes [("cpu", "6"), ("disk", "15e3")] init →
        Gives Quantity.Denotes [("cpu", "6"), ("disk", "15e3"), ("memory", "3Gi")] fun name =>
          Option.merge Max.max (default name) (init name) := by
  have hordered : migration.Ordered := by
    simp only [migration, Json.int, Json.ordered_obj_iff, Json.ordered_arr_iff,
      List.forall_mem_cons, List.not_mem_nil, false_implies, implies_true, and_true,
      Json.Ordered.str, Json.Ordered.num]
    decide
  have htotal : deployment.total migration .requests =
      .ok [("cpu", "6"), ("disk", "15e3"), ("memory", "3Gi")] := rfl
  have hroles : deployment.byRole migration .requests =
      .ok ⟨[("cpu", "1500m"), ("memory", "3Gi")], some [("cpu", "6"), ("disk", "15e3")]⟩ := rfl
  obtain ⟨htotals, hbyRole⟩ := totals_closed_form deployment migration .requests hordered
  obtain ⟨n, hn, -, hgives⟩ := htotals _ htotal
  exact ⟨htotal, hroles, ⟨n, hn, hgives⟩, (hbyRole _ hroles).2 _ htotal (by decide)⟩

end Workload

end VirtualApi

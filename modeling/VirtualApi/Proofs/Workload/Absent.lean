import VirtualApi.Proofs.Json.Placing
import VirtualApi.Proofs.Workload.Totals

/-!
# A null for what a manifest leaves out

Whether a null stands for nothing. The number of pods and the lists of containers and of claim
templates may be null: every metric is what it is without them. The resources of a container or of
a claim template may be left out but not be null: a metric that reads them fails then, and all other
metrics stay. `Affected` says what becomes of the lists that the metrics go through, and
`Affected.read` what this does to each metric. The main theorem, `null_for_absent`, says it of every
optional field and every metric.
-/

namespace VirtualApi

/-! ## Computations that are spoiled -/

section Spoiled

variable {ε α β : Type} {e : ε} {spoils others : Prop}

/-- The second of two outcomes is a failure with the given error, or else the failure that the first
one already is. -/
inductive Spoiled (e : ε) : Except ε α → Except ε α → Prop where
  | here (before : Except ε α) : Spoiled e before (.error e)
  | already (e' : ε) : Spoiled e (.error e') (.error e')

/-- What came through before fails with the given error when it is spoiled. -/
theorem Spoiled.eq_error {before after : Except ε α} {a : α} (h : Spoiled e before after)
    (hbefore : before = .ok a) : after = .error e := by
  cases h with
  | here => rfl
  | already e' => cases hbefore

/-- The second of two outcomes is spoiled under a condition and is the first one otherwise. -/
structure SpoiledIf (spoils : Prop) (e : ε) (before after : Except ε α) : Prop where
  same : ¬ spoils → after = before
  spoiled : spoils → Spoiled e before after

namespace SpoiledIf

variable {before after : Except ε α} {next next' : α → Except ε β}

/-- An outcome that stays is not spoiled. -/
theorem of_eq (h : after = before) (hnot : ¬ spoils) : SpoiledIf spoils e before after :=
  ⟨fun _ => h, fun hspoils => absurd hspoils hnot⟩

/-- The condition may be put in other words. -/
theorem congr (h : SpoiledIf spoils e before after) (hiff : others ↔ spoils) :
    SpoiledIf others e before after :=
  ⟨fun hnot => h.same fun hspoils => hnot (hiff.mpr hspoils), fun ho => h.spoiled (hiff.mp ho)⟩

/-- Two computations one after the other are spoiled where one of them is. -/
theorem bind (h : SpoiledIf spoils e before after)
    (hnext : ∀ a, before = .ok a → SpoiledIf others e (next a) (next' a)) :
    SpoiledIf (spoils ∨ others) e (before >>= next) (after >>= next') := by
  constructor
  · intro hnot
    obtain ⟨hspoils, hothers⟩ := not_or.mp hnot
    rw [h.same hspoils]
    cases before with
    | error e' => rfl
    | ok a => exact (hnext a rfl).same hothers
  · intro hor
    by_cases hspoils : spoils
    · cases h.spoiled hspoils with
      | here => exact .here _
      | already e' => exact .already e'
    · rw [h.same hspoils]
      cases before with
      | error e' => exact .already e'
      | ok a => exact (hnext a rfl).spoiled (hor.resolve_left hspoils)

/-- What follows on a computation is spoiled where the computation is. -/
theorem first (h : SpoiledIf spoils e before after) (next : α → Except ε β) :
    SpoiledIf spoils e (before >>= next) (after >>= next) :=
  (h.bind fun _ _ => .of_eq rfl not_false).congr (or_iff_left not_false).symm

/-- What follows on the same outcome is spoiled where it is after every value. -/
theorem after_same (h : after = before)
    (hnext : ∀ a, before = .ok a → SpoiledIf spoils e (next a) (next' a)) :
    SpoiledIf spoils e (before >>= next) (after >>= next') :=
  ((of_eq h not_false).bind hnext).congr (or_iff_right not_false).symm

/-- A computation on each item of a list is spoiled where it is on the one item that is modified. -/
theorem mapM_modify {f : α → Except ε β} {change : α → α} {items : List α} {index : Nat}
    (hitem : ∀ a, items[index]? = some a → SpoiledIf spoils e (f a) (f (change a)))
    (hindex : spoils → index < items.length) :
    SpoiledIf spoils e (items.mapM f) ((items.modify index change).mapM f) := by
  induction items generalizing index with
  | nil =>
      refine of_eq ?_ fun hspoils => absurd (hindex hspoils) (Nat.not_lt_zero _)
      rw [List.modify_nil]
  | cons item rest ih =>
      cases index with
      | zero =>
          rw [List.modify_zero_cons, List.mapM_cons, List.mapM_cons]
          exact (hitem item rfl).first _
      | succ index =>
          rw [List.modify_succ_cons, List.mapM_cons, List.mapM_cons]
          refine after_same rfl fun _ _ => (ih hitem fun hspoils => ?_).first _
          exact Nat.lt_of_succ_lt_succ (hindex hspoils)

end SpoiledIf

end Spoiled

namespace Workload

open MetricsResult (ofQuantity)

variable {w : Workload} {part : Part} {field : ResourceField} {object before after : Json}
  {items templates : List Json} {given : Option Json} {key : String} {path route : List String}

/-! ## The metrics -/

/-- The metrics of a manifest. -/
inductive Metric where
  | replicas
  | roleReplicas
  | total (field : ResourceField)
  | app (field : ResourceField)
  | byRole (field : ResourceField)

namespace Metric

/-- What kind of value each metric is. -/
def Result : Metric → Type
  | .replicas => Int
  | .roleReplicas => ByRole Int
  | .total _ | .app _ => ResourceList
  | .byRole _ => ByRole ResourceList

/-- Read a metric of a manifest. -/
def read (w : Workload) (object : Json) : (metric : Metric) → MetricsResult metric.Result
  | .replicas => w.replicas object
  | .roleReplicas => w.roleReplicas object
  | .total field => w.total object field
  | .app field => w.app object field
  | .byRole field => w.byRole object field

/-- The metric goes through the resources that the items of a part list in a field. -/
def Reads (part : Part) (field : ResourceField) : Metric → Prop
  | .replicas | .roleReplicas => False
  | .total given => given = field
  | .app given => given = field ∧ part = .app
  | .byRole given => given = field ∧ part ≠ .claim

end Metric

/-! ## The lists that the metrics go through -/

/-- The claim templates that stand in a manifest; none where there is nothing or null. -/
def templatesOf : Option Json → MetricsResult (List Json)
  | none | some .null => .ok []
  | some (.arr templates) => .ok templates
  | some _ => .error (.malformed "volumeClaimTemplates" "expected a list")

namespace Part

/-- Where a manifest lists the items of the part. -/
def listPath (w : Workload) : Part → List String
  | .app => w.podSpecPath ++ ["containers"]
  | .init => w.podSpecPath ++ ["initContainers"]
  | .claim => ["spec", "volumeClaimTemplates"]

/-- The metrics read the part: only stateful sets have claim templates. -/
def isRead (w : Workload) : Part → Bool
  | .app | .init => true
  | .claim => w = .statefulSet

/-- What an error about the resources of an item of the part calls them. -/
def label (field : ResourceField) : Part → String
  | .app => "containers" ++ ".resources." ++ field.name
  | .init => "initContainers" ++ ".resources." ++ field.name
  | .claim => "volumeClaimTemplates"

/-- The error about resources of an item of the part that are not a list of them. -/
def unlisted (field : ResourceField) (part : Part) : MetricsError :=
  .malformed (part.label field) "expected a map of quantities"

/-- Read the items of the part. -/
def readItems (w : Workload) (object : Json) : Part → MetricsResult (List Json)
  | .app => containers (w.podSpec object) "containers"
  | .init => containers (w.podSpec object) "initContainers"
  | .claim =>
      if w ≠ .statefulSet then .ok []
      else templatesOf (object.at? ["spec", "volumeClaimTemplates"])

/-- Read the resources of each item of the part. -/
def lists (w : Workload) (object : Json) (field : ResourceField) (part : Part) :
    MetricsResult (List ResourceList) := do
  let items ← part.readItems w object
  items.mapM fun item => resourceList (part.label field) (item.at? (part.path field))

end Part

/-- The claims are the sum of what the claim templates ask for. -/
theorem claims_eq_lists (w : Workload) (object : Json) (field : ResourceField) :
    w.claims object field =
      Part.claim.lists w object field >>= fun lists => ofQuantity (ResourceList.sum lists) := by
  unfold claims Part.lists Part.readItems templatesOf
  split
  · rfl
  · cases object.at? ["spec", "volumeClaimTemplates"] with
    | none => rfl
    | some value => cases value <;> rfl

/-- There are init containers when some are read. -/
theorem has_init_eq (w : Workload) (object : Json) :
    w.hasInit object = Part.init.readItems w object >>= fun items => pure !items.isEmpty := rfl

/-- The templates that are read are those that stand there. -/
theorem templates_of_eq_ok (h : templatesOf given = .ok templates) :
    (given.bind Json.arr?).getD [] = templates := by
  cases given with
  | none => exact Except.ok.inj h
  | some value =>
      cases value with
      | null => exact Except.ok.inj h
      | arr _ => exact Except.ok.inj h
      | _ => cases h

/-- The items that are read are those of the part. -/
theorem items_of_read (h : part.readItems w object = .ok items) : part.items w object = items := by
  cases part with
  | app => exact containers_eq_ok h
  | init => exact containers_eq_ok h
  | claim =>
      unfold Part.readItems at h
      unfold Part.items
      by_cases hw : w = .statefulSet
      · rw [if_neg (not_not_intro hw)] at h
        rw [if_pos hw]
        exact templates_of_eq_ok h
      · rw [if_pos hw] at h
        rw [if_neg hw]
        exact Except.ok.inj h

/-! ## A null where there was nothing -/

/-- The second of two values is the first one, or a null in place of nothing. -/
inductive MaybeNull : Option Json → Option Json → Prop where
  | same (value : Option Json) : MaybeNull value value
  | null : MaybeNull none (some .null)

/-- A null in place of an integer is none. -/
theorem integer_at_of_null (h : MaybeNull (before.at? path) (after.at? path)) :
    integerAt after path = integerAt before path := by
  unfold integerAt
  generalize before.at? path = first at h
  generalize after.at? path = second at h
  cases h <;> rfl

/-- A null in place of a list of containers has none. -/
theorem containers_of_null (hkey : Json.indexOfToken? key = none)
    (h : MaybeNull (before.at? (w.podSpecPath ++ [key])) (after.at? (w.podSpecPath ++ [key]))) :
    containers (w.podSpec after) key = containers (w.podSpec before) key := by
  unfold containers podSpec
  rw [Json.bind_get_eq_at hkey, Json.bind_get_eq_at hkey]
  generalize before.at? (w.podSpecPath ++ [key]) = first at h
  generalize after.at? (w.podSpecPath ++ [key]) = second at h
  cases h <;> rfl

/-- A null in place of the list of items of a part has none. -/
theorem read_items_of_null
    (h : MaybeNull (before.at? (part.listPath w)) (after.at? (part.listPath w))) :
    part.readItems w after = part.readItems w before := by
  cases part with
  | app => exact containers_of_null rfl h
  | init => exact containers_of_null rfl h
  | claim =>
      unfold Part.readItems
      unfold Part.listPath at h
      generalize before.at? ["spec", "volumeClaimTemplates"] = first at h
      generalize after.at? ["spec", "volumeClaimTemplates"] = second at h
      cases h <;> rfl

/-- A null in place of the number of pods is as if nothing was said. -/
theorem replicas_of_null
    (h : ∀ path, w.countPath? = some path → MaybeNull (before.at? path) (after.at? path)) :
    w.replicas after = w.replicas before := by
  unfold replicas
  cases hpath : w.countPath? with
  | none => rfl
  | some path => dsimp only; rw [integer_at_of_null (h path hpath)]

/-! ## From the lists to the metrics -/

/-- One manifest in place of another changes no more than to spoil the lists of some parts. -/
structure Affected (w : Workload) (spoils : Part → ResourceField → Prop) (e : MetricsError)
    (before after : Json) : Prop where
  replicas : w.replicas after = w.replicas before
  hasInit : w.hasInit after = w.hasInit before
  init : ∀ field, spoils .init field → w.hasInit before ≠ .ok false
  lists : ∀ part field,
    SpoiledIf (spoils part field) e (part.lists w before field) (part.lists w after field)

namespace Affected

variable {spoils : Part → ResourceField → Prop} {e : MetricsError}

/-- What the app containers ask for is spoiled with their lists. -/
theorem app (h : Affected w spoils e before after) (field : ResourceField) :
    SpoiledIf (spoils .app field) e (w.app before field) (w.app after field) :=
  (h.lists .app field).first fun lists => ofQuantity (ResourceList.sum lists)

/-- What the init containers ask for is spoiled with their lists. -/
theorem largest (h : Affected w spoils e before after) (field : ResourceField) :
    SpoiledIf (spoils .init field) e (w.init before field) (w.init after field) :=
  (h.lists .init field).first fun lists => ofQuantity (ResourceList.maximum lists)

/-- What the claim templates ask for is spoiled with their lists. -/
theorem claims (h : Affected w spoils e before after) (field : ResourceField) :
    SpoiledIf (spoils .claim field) e (w.claims before field) (w.claims after field) := by
  rw [claims_eq_lists, claims_eq_lists]
  exact (h.lists .claim field).first fun lists => ofQuantity (ResourceList.sum lists)

/-- What one pod asks for is spoiled with its app containers and its init containers. -/
theorem effective (h : Affected w spoils e before after) (field : ResourceField) :
    SpoiledIf (spoils .app field ∨ spoils .init field) e
      (w.effective before field) (w.effective after field) :=
  (h.app field).bind fun _ _ => (h.largest field).first _

/-- The total is spoiled with every part. -/
theorem total (h : Affected w spoils e before after) (field : ResourceField) :
    SpoiledIf ((spoils .app field ∨ spoils .init field) ∨ spoils .claim field) e
      (w.total before field) (w.total after field) := by
  refine .after_same h.replicas fun n _ => ?_
  refine (h.effective field).bind fun pod _ => ?_
  exact .after_same rfl fun pods _ => (h.claims field).first _

/-- The lists by role are spoiled with the app containers and the init containers. -/
theorem byRole (h : Affected w spoils e before after) (field : ResourceField) :
    SpoiledIf (spoils .app field ∨ spoils .init field) e
      (w.byRole before field) (w.byRole after field) := by
  refine .after_same h.replicas fun n _ => ?_
  refine (h.app field).bind fun pod _ => ?_
  refine .after_same rfl fun app _ => .after_same h.hasInit fun hasInit hinit => ?_
  -- The init containers are read only where there are some, and elsewhere they are not spoiled.
  cases hasInit with
  | false => exact .of_eq rfl fun hspoils => h.init field hspoils hinit
  | true => exact (h.largest field).first _

/-- Each metric is spoiled with the lists that it goes through. -/
theorem read (h : Affected w spoils e before after) (metric : Metric) :
    SpoiledIf (∃ part field, metric.Reads part field ∧ spoils part field) e
      (metric.read w before) (metric.read w after) := by
  cases metric with
  | replicas => exact .of_eq h.replicas fun ⟨_, _, hreads, _⟩ => hreads
  | roleReplicas =>
      refine .of_eq ?_ fun ⟨_, _, hreads, _⟩ => hreads
      show w.roleReplicas after = w.roleReplicas before
      unfold roleReplicas
      rw [h.replicas, h.hasInit]
  | total field =>
      refine (h.total field).congr ⟨?_, ?_⟩
      · intro ⟨part, _, hreads, hspoils⟩
        cases hreads
        cases part with
        | app => exact Or.inl (Or.inl hspoils)
        | init => exact Or.inl (Or.inr hspoils)
        | claim => exact Or.inr hspoils
      · intro hspoils
        rcases hspoils with (hspoils | hspoils) | hspoils <;> exact ⟨_, field, rfl, hspoils⟩
  | app field =>
      refine (h.app field).congr ⟨?_, fun hspoils => ⟨.app, field, ⟨rfl, rfl⟩, hspoils⟩⟩
      intro ⟨part, _, ⟨hfield, hpart⟩, hspoils⟩
      cases hfield
      cases hpart
      exact hspoils
  | byRole field =>
      refine (h.byRole field).congr ⟨?_, ?_⟩
      · intro ⟨part, _, ⟨hfield, hpart⟩, hspoils⟩
        cases hfield
        cases part with
        | app => exact Or.inl hspoils
        | init => exact Or.inr hspoils
        | claim => exact absurd rfl hpart
      · intro hspoils
        rcases hspoils with hspoils | hspoils
        · exact ⟨.app, field, ⟨rfl, nofun⟩, hspoils⟩
        · exact ⟨.init, field, ⟨rfl, nofun⟩, hspoils⟩

end Affected

/-! ## The optional fields -/

/-- The fields that stand at a place of the manifest itself. -/
inductive Place where
  | count
  | items (part : Part)

/-- Where a manifest has the field; pods are not counted. -/
def Place.path? (w : Workload) : Place → Option (List String)
  | .count => w.countPath?
  | .items part => some (part.listPath w)

/-- The optional fields that metrics read: those of the manifest itself, and the resources that each
item of a part lists. -/
inductive OptionalField where
  | stated (place : Place)
  | resources (part : Part) (index : Nat) (field : ResourceField)

namespace OptionalField

/-- What a manifest says in the field. -/
def value? (w : Workload) (object : Json) : OptionalField → Option Json
  | .stated place => (place.path? w).bind fun path => object.at? path
  | .resources part index field =>
      (part.items w object)[index]?.bind fun item => item.at? (part.path field)

/-- The manifest with null in the field. -/
def writeNull (w : Workload) (object : Json) : OptionalField → Json
  | .stated place =>
      match place.path? w with
      | some path => object.put path .null
      | none => object
  | .resources part index field =>
      match object.at? (part.listPath w) with
      | some (.arr items) =>
          object.put (part.listPath w)
            (.arr (items.modify index fun item => item.put (part.path field) .null))
      | _ => object

end OptionalField

/-- A null can be written into the resources of an item: the item is there, and what it would stand
in is absent or an object. -/
def HasItem (w : Workload) (object : Json) (part : Part) (index : Nat) (field : ResourceField) :
    Prop :=
  ∃ item, (part.items w object)[index]? = some item ∧ item.HasRoom (part.path field)

/-- The fields of a manifest stand beside each other. -/
theorem paths_diverge {place other : Place} (hne : place ≠ other)
    (hplace : place.path? w = some path) (hother : other.path? w = some route) :
    Json.Diverging path route := by
  -- Of the at most four paths of each workload none begins another.
  cases w <;> rcases place with _ | ⟨_ | _ | _⟩ <;> rcases other with _ | ⟨_ | _ | _⟩ <;>
    cases hplace <;> cases hother <;> first | decide | exact absurd rfl hne

/-- A null that is put in place of nothing. -/
theorem maybe_null_of_put (habsent : object.at? path = none) :
    MaybeNull (object.at? path) ((object.put path .null).at? path) := by
  by_cases hroom : object.HasRoom path
  · rw [Json.at_put_of_room hroom, habsent]
    exact .null
  · rw [Json.at_put_of_no_room hroom]
    exact .same _

/-- Where the number of pods and the items stay, nothing is spoiled. -/
theorem affected_of_same {spoils : Part → ResourceField → Prop} {e : MetricsError}
    (hreplicas : w.replicas after = w.replicas before)
    (hitems : ∀ part : Part, part.readItems w after = part.readItems w before)
    (hnot : ∀ part field, ¬ spoils part field) : Affected w spoils e before after where
  replicas := hreplicas
  hasInit := by rw [has_init_eq, has_init_eq, hitems .init]
  init field hspoils := absurd hspoils (hnot .init field)
  lists part field := by
    refine .of_eq ?_ (hnot part field)
    unfold Part.lists
    rw [hitems part]

/-! ### A null in the resources of an item -/

/-- A list of items that stands in a manifest is read, if the part is. -/
theorem read_items_of_list (h : object.at? (part.listPath w) = some (.arr items)) :
    part.readItems w object = .ok (if part.isRead w then items else []) := by
  have hcontainers {key : String} (hkey : Json.indexOfToken? key = none)
      (h : object.at? (w.podSpecPath ++ [key]) = some (.arr items)) :
      containers (w.podSpec object) key = .ok items := by
    unfold containers podSpec
    rw [Json.bind_get_eq_at hkey, h]
  cases part with
  | app => exact hcontainers rfl h
  | init => exact hcontainers rfl h
  | claim =>
      unfold Part.readItems Part.isRead
      by_cases hw : w = .statefulSet
      · rw [if_neg (not_not_intro hw), if_pos (decide_eq_true hw)]
        exact congrArg templatesOf h
      · rw [if_pos hw, if_neg (by simpa using hw)]

/-- A part has no items where no list of them stands in the manifest. -/
theorem items_eq_nil (h : ∀ items, object.at? (part.listPath w) ≠ some (.arr items)) :
    part.items w object = [] := by
  have hnone : ((object.at? (part.listPath w)).bind Json.arr?).getD [] = [] := by
    cases hgiven : object.at? (part.listPath w) with
    | none => rfl
    | some value =>
        cases value with
        | arr items => exact absurd hgiven (h items)
        | _ => rfl
  have hcontainers {key : String} (hkey : Json.indexOfToken? key = none)
      (h : ((object.at? (w.podSpecPath ++ [key])).bind Json.arr?).getD [] = []) :
      (((w.podSpec object).bind (Json.get? key)).bind Json.arr?).getD [] = [] := by
    unfold podSpec
    rw [Json.bind_get_eq_at hkey]
    exact h
  cases part with
  | app =>
      show (((w.podSpec object).bind (Json.get? "containers")).bind Json.arr?).getD [] = []
      exact hcontainers rfl hnone
  | init =>
      show (((w.podSpec object).bind (Json.get? "initContainers")).bind Json.arr?).getD [] = []
      exact hcontainers rfl hnone
  | claim =>
      show (if w = .statefulSet then _ else []) = []
      split
      · exact hnone
      · rfl

/-- The way to the items of a part does not go through arrays. -/
theorem list_path_fields (w : Workload) (part : Part) :
    ∀ key ∈ part.listPath w, Json.indexOfToken? key = none := by
  cases w <;> cases part <;> decide

/-- Where an item of a list in the manifest is modified, it is modified among the items that are
read. -/
theorem read_items_of_modified (h : object.at? (part.listPath w) = some (.arr items)) (index : Nat)
    (change : Json → Json) :
    ∃ read, part.readItems w object = .ok read ∧
      part.readItems w (object.put (part.listPath w) (.arr (items.modify index change))) =
        .ok (read.modify index change) := by
  have hput := Json.at_put_of_room (Json.has_room_of_at (list_path_fields w part) h)
    (.arr (items.modify index change))
  refine ⟨_, read_items_of_list h, ?_⟩
  rw [read_items_of_list hput]
  cases part.isRead w with
  | true => rfl
  | false => exact congrArg Except.ok (List.modify_nil ..).symm

/-- Requests and limits of an item stand beside each other. -/
theorem field_paths_diverge {other : ResourceField} (hne : field ≠ other) :
    Json.Diverging (part.path field) (part.path other) := by
  cases part <;> cases field <;> cases other <;> first | decide | exact absurd rfl hne

/-- The resources of an item that is read. -/
theorem value_of_read {index : Nat} (h : part.readItems w object = .ok items) :
    (OptionalField.resources part index field).value? w object =
      items[index]?.bind fun item => item.at? (part.path field) := by
  show (part.items w object)[index]?.bind _ = _
  rw [items_of_read h]

section Modified

variable {index : Nat}

/-- A null in the resources of one item that had none spoils their list. -/
theorem lists_of_modified (hfirst : part.readItems w before = .ok items)
    (hsecond : part.readItems w after =
      .ok (items.modify index fun item => item.put (part.path field) .null))
    (habsent : (OptionalField.resources part index field).value? w before = none)
    (given : ResourceField) :
    SpoiledIf (given = field ∧ HasItem w before part index field) (part.unlisted field)
      (part.lists w before given) (part.lists w after given) := by
  rw [value_of_read hfirst] at habsent
  unfold Part.lists HasItem
  rw [hfirst, hsecond, items_of_read hfirst]
  refine .mapM_modify (fun item hitem => ?_) fun ⟨_, _, hitem, _⟩ => ?_
  · rw [hitem, Option.bind_some] at habsent
    by_cases hfield : given = field
    · subst hfield
      by_cases hroom : item.HasRoom (part.path given)
      · refine ⟨fun hnot => absurd ⟨rfl, item, hitem, hroom⟩ hnot, fun _ => ?_⟩
        rw [Json.at_put_of_room hroom]
        exact .here _
      · refine .of_eq (by rw [Json.at_put_of_no_room hroom]) fun ⟨_, same, hsame, hhas⟩ => ?_
        cases hitem.symm.trans hsame
        exact hroom hhas
    · refine .of_eq ?_ fun hspoils => hfield hspoils.1
      rw [Json.at_put_of_diverging (field_paths_diverge (Ne.symm hfield))]
  · exact (List.getElem?_eq_some_iff.mp hitem).1

/-- A null in the resources of one item that had none spoils what reads them. -/
theorem affected_of_modified (hreplicas : w.replicas after = w.replicas before)
    (hothers : ∀ other, other ≠ part → other.readItems w after = other.readItems w before)
    (hfirst : part.readItems w before = .ok items)
    (hsecond : part.readItems w after =
      .ok (items.modify index fun item => item.put (part.path field) .null))
    (habsent : (OptionalField.resources part index field).value? w before = none) :
    Affected w
      (fun other given => other = part ∧ given = field ∧ HasItem w before part index field)
      (part.unlisted field) before after where
  replicas := hreplicas
  hasInit := by
    rw [has_init_eq, has_init_eq]
    by_cases hinit : part = .init
    · subst hinit
      rw [hfirst, hsecond]
      refine congrArg (fun empty : Bool => Except.ok (!empty)) ?_
      cases items with
      | nil => rw [List.modify_nil]
      | cons item items => cases index <;> rfl
    · rw [hothers .init (Ne.symm hinit)]
  init given hspoils hnone := by
    obtain ⟨rfl, -, item, hitem, -⟩ := hspoils
    rw [has_init_eq, hfirst] at hnone
    rw [items_of_read hfirst] at hitem
    cases items with
    | nil => cases hitem
    | cons item items => cases hnone
  lists other given := by
    by_cases hother : other = part
    · subst hother
      exact (lists_of_modified hfirst hsecond habsent given).congr (and_iff_right rfl)
    · refine .of_eq ?_ fun hspoils => hother hspoils.1
      unfold Part.lists
      rw [hothers other hother]

end Modified

/-- A null in place of the resources of one item spoils what reads them. -/
theorem affected_of_resources {index : Nat}
    (habsent : (OptionalField.resources part index field).value? w object = none)
    (hafter : after = (OptionalField.resources part index field).writeNull w object) :
    Affected w
      (fun other given => other = part ∧ given = field ∧ HasItem w object part index field)
      (part.unlisted field) object after := by
  rw [OptionalField.writeNull] at hafter
  split at hafter
  · next items hitems =>
      have hbeside (place : Place) (hne : place ≠ .items part) {path : List String}
          (hpath : place.path? w = some path) : MaybeNull (object.at? path) (after.at? path) := by
        rw [hafter, Json.at_put_of_diverging (paths_diverge (Ne.symm hne) rfl hpath)]
        exact .same _
      have hreplicas : w.replicas after = w.replicas object :=
        replicas_of_null fun path => hbeside .count nofun
      have hothers (other : Part) (hne : other ≠ part) :
          other.readItems w after = other.readItems w object :=
        read_items_of_null (hbeside (.items other) (fun heq => hne (Place.items.inj heq)) rfl)
      obtain ⟨read, hfirst, hsecond⟩ :=
        read_items_of_modified hitems index fun item => item.put (part.path field) .null
      rw [← hafter] at hsecond
      exact affected_of_modified hreplicas hothers hfirst hsecond habsent
  · next hlist =>
      subst hafter
      refine affected_of_same rfl (fun _ => rfl) fun _ _ ⟨_, _, _, hitem, _⟩ => ?_
      rw [items_eq_nil hlist] at hitem
      cases hitem

/-- A null in place of a field that stands in the manifest itself is as if nothing was said. -/
theorem affected_of_stated (e : MetricsError) {place : Place}
    (habsent : (OptionalField.stated place).value? w object = none) :
    Affected w (fun _ _ => False) e object ((OptionalField.stated place).writeNull w object) := by
  have hnull (other : Place) (path : List String) (hpath : other.path? w = some path) :
      MaybeNull (object.at? path)
        (((OptionalField.stated place).writeNull w object).at? path) := by
    cases hplace : place.path? w with
    | none =>
        simp only [OptionalField.writeNull, hplace]
        exact .same _
    | some route =>
        simp only [OptionalField.value?, hplace, Option.bind_some] at habsent
        simp only [OptionalField.writeNull, hplace]
        by_cases hother : place = other
        · subst hother
          cases hplace.symm.trans hpath
          exact maybe_null_of_put habsent
        · rw [Json.at_put_of_diverging (paths_diverge hother hplace hpath)]
          exact .same _
  exact affected_of_same (replicas_of_null (hnull .count))
    (fun part => read_items_of_null (hnull (.items part) _ rfl)) fun _ _ => not_false

/-- A null in place of a field that a manifest leaves out. In place of the number of pods or of a
list of items it changes no metric. In place of the resources of an item that can have them it
spoils the metrics that read these resources, and it changes no other metric. -/
theorem null_for_absent (w : Workload) (object : Json) (optional : OptionalField) (metric : Metric)
    (habsent : optional.value? w object = none) :
    ((∀ part index field, optional = .resources part index field → metric.Reads part field →
        ¬ HasItem w object part index field) →
      metric.read w (optional.writeNull w object) = metric.read w object) ∧
    ∀ part index field, optional = .resources part index field → metric.Reads part field →
      HasItem w object part index field →
      Spoiled (part.unlisted field) (metric.read w object)
        (metric.read w (optional.writeNull w object)) := by
  cases optional with
  | stated place =>
      refine ⟨fun _ => ?_, nofun⟩
      have haffected := affected_of_stated (Part.unlisted .requests .app) habsent
      exact (haffected.read metric).same fun ⟨_, _, _, hspoils⟩ => hspoils
  | resources part index field =>
      have haffected := (affected_of_resources habsent rfl).read metric
      constructor
      · intro hnot
        refine haffected.same fun ⟨_, _, hreads, hspoils⟩ => ?_
        obtain ⟨rfl, rfl, hitem⟩ := hspoils
        exact hnot _ _ _ rfl hreads hitem
      · intro _ _ _ heq hreads hitem
        cases heq
        exact haffected.spoiled ⟨part, field, hreads, rfl, rfl, hitem⟩

/-- A pod with a container that asks for nothing and has a limit. -/
def limited : Json :=
  .obj [("spec", .obj [("containers", .arr [
    .obj [("name", .str "app"), ("resources", .obj [("limits", .obj [("cpu", .str "1")])])]])])]

/-- The requests of its container. -/
def missingRequests : OptionalField := .resources .app 0 .requests

/-- With null for the requests, what the pod asks for cannot be read; its limits can. -/
theorem null_requests_spoil_the_total :
    missingRequests.value? .pod limited = none ∧
      pod.total limited .requests = .ok [] ∧
      pod.total (missingRequests.writeNull .pod limited) .requests = .error
        (.malformed "containers.resources.requests" "expected a map of quantities") ∧
      pod.total (missingRequests.writeNull .pod limited) .limits = .ok [("cpu", "1")] := by
  have habsent : missingRequests.value? .pod limited = none := rfl
  have hrequests := null_for_absent .pod limited missingRequests (.total .requests) habsent
  have hlimits := null_for_absent .pod limited missingRequests (.total .limits) habsent
  have hitem : HasItem .pod limited .app 0 .requests := by
    refine ⟨_, rfl, fun resources hresources => ?_⟩
    cases hresources
    exact fun requests hrequests => trivial
  refine ⟨habsent, rfl, (hrequests.2 .app 0 .requests rfl rfl hitem).eq_error rfl, ?_⟩
  exact hlimits.1 fun part index field heq hreads => by cases heq; cases hreads

/-- A null does not stand for nothing in every field that a manifest may leave out. -/
theorem null_requests_are_not_absent :
    ¬ ∀ (w : Workload) (object : Json) (optional : OptionalField) (metric : Metric),
      optional.value? w object = none →
      metric.read w (optional.writeNull w object) = metric.read w object := by
  intro hall
  have hsame : pod.total (missingRequests.writeNull .pod limited) .requests =
      pod.total limited .requests := hall .pod limited missingRequests (.total .requests) rfl
  have hbefore : pod.total limited .requests = .ok [] := rfl
  have hafter : pod.total (missingRequests.writeNull .pod limited) .requests = .error
      (.malformed "containers.resources.requests" "expected a map of quantities") := rfl
  rw [hbefore, hafter] at hsame
  cases hsame

end Workload

end VirtualApi

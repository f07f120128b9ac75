import VirtualApi.Body

/-!
# The node budget of a body

`Json.nodes` is the number of nodes of a value at every depth. The nodes that are counted and those
of the pending values together stay the same while values are taken up, so that the count is that
number up to one beyond the budget (`Json.count_nodes_eq_min`). The main theorem,
`Body.node_budget_is_exact`, says what this means for bodies: of those that hold a value, exactly
the ones within the budget are accepted.
-/

namespace VirtualApi

namespace Json

mutual

/-- The number of nodes of a value: one for the value itself, and those of the values in it. -/
def nodes : Json → Nat
  | .null | .bool _ | .num _ | .str _ => 1
  | .arr items => 1 + nodesOfItems items
  | .obj fields => 1 + nodesOfFields fields

/-- The number of nodes of several values. -/
def nodesOfItems : List Json → Nat
  | [] => 0
  | item :: rest => item.nodes + nodesOfItems rest

/-- The number of nodes of the values of several fields. -/
def nodesOfFields : List (String × Json) → Nat
  | [] => 0
  | (_, value) :: rest => value.nodes + nodesOfFields rest

end

/-- The nodes of values one after the other add up. -/
theorem nodes_of_items_append (first second : List Json) :
    nodesOfItems (first ++ second) = nodesOfItems first + nodesOfItems second := by
  induction first with
  | nil => exact (Nat.zero_add _).symm
  | cons item rest ih => simp only [List.cons_append, nodesOfItems, ih, Nat.add_assoc]

/-- The keys of fields are no nodes. -/
theorem nodes_of_fields_eq (fields : List (String × Json)) :
    nodesOfFields fields = nodesOfItems (fields.map (·.2)) := by
  induction fields with
  | nil => rfl
  | cons field rest ih => simp only [List.map_cons, nodesOfItems, nodesOfFields, ih]

/-- A value is one node besides those of the values directly inside it. -/
theorem nodes_eq (value : Json) : value.nodes = 1 + nodesOfItems value.children := by
  cases value with
  | arr items => rw [nodes, children]
  | obj fields => rw [nodes, children, nodes_of_fields_eq]
  | _ => rfl

/-- Taking up a pending value counts one node and leaves the others pending. -/
theorem nodes_of_items_take_up (value : Json) (pending : List Json) :
    nodesOfItems (value :: pending) = 1 + nodesOfItems (value.children ++ pending) := by
  rw [nodesOfItems, nodes_eq, nodes_of_items_append, Nat.add_assoc]

/-- The nodes of the pending values are counted on, up to one more than there is room for. -/
theorem count_from_eq_min (room counted : Nat) (pending : List Json) :
    countFrom room counted pending = counted + min (room + 1) (nodesOfItems pending) := by
  -- A value that is taken up moves one node from the pending ones to the count.
  induction room generalizing counted pending with
  | zero =>
      cases pending with
      | nil => rfl
      | cons value pending =>
          rw [countFrom, nodes_of_items_take_up]
          omega
  | succ room ih =>
      cases pending with
      | nil =>
          rw [countFrom, nodesOfItems]
          omega
      | cons value pending =>
          rw [countFrom, ih, nodes_of_items_take_up]
          omega

/-- The count is the number of nodes, up to one beyond the budget. -/
theorem count_nodes_eq_min (value : Json) (budget : Nat) :
    value.countNodes budget = min (budget + 1) value.nodes := by
  rw [countNodes, count_from_eq_min, nodesOfItems, nodesOfItems]
  omega

end Json

namespace Body

/-- A body within the limit of bytes that holds a value is decided by the number of its nodes. -/
theorem decode_of_value {bytes : ByteArray} {limits : BodyLimits} {value : Json}
    (hbytes : bytes.size ≤ limits.maxBytes) (hvalue : valueOfBytes? bytes = some value) :
    decode bytes limits = if value.nodes ≤ limits.maxNodes then .ok value
      else .error (.requestEntityTooLarge
        ("body has more than " ++ Decimal.ofNat limits.maxNodes ++ " nodes")) := by
  rw [decode, if_neg (Nat.not_lt.mpr hbytes), hvalue]
  dsimp only
  rw [Json.count_nodes_eq_min]
  split
  · next h => rw [if_neg (by omega)]
  · next h => rw [if_pos (by omega)]

/-- The nodes of a value are counted exactly, up to one beyond the budget. A body within the limit
of bytes that holds a value is therefore accepted exactly when the value has no more nodes than the
limit. It is returned as it is then, and the body is too large otherwise. -/
theorem node_budget_is_exact :
    (∀ (value : Json) (budget : Nat), value.countNodes budget = min (budget + 1) value.nodes) ∧
    ∀ (bytes : ByteArray) (limits : BodyLimits) (value : Json), bytes.size ≤ limits.maxBytes →
      valueOfBytes? bytes = some value →
      ((∃ accepted, decode bytes limits = .ok accepted) ↔ value.nodes ≤ limits.maxNodes) ∧
      (value.nodes ≤ limits.maxNodes → decode bytes limits = .ok value) ∧
      (limits.maxNodes < value.nodes → decode bytes limits = .error (.requestEntityTooLarge
        ("body has more than " ++ Decimal.ofNat limits.maxNodes ++ " nodes"))) := by
  refine ⟨Json.count_nodes_eq_min, fun bytes limits value hbytes hvalue => ?_⟩
  rw [decode_of_value hbytes hvalue]
  by_cases h : value.nodes ≤ limits.maxNodes
  · rw [if_pos h]
    exact ⟨⟨fun _ => h, fun _ => ⟨value, rfl⟩⟩, fun _ => rfl, fun hlt => absurd h (by omega)⟩
  · rw [if_neg h]
    exact ⟨⟨nofun, fun hle => absurd hle h⟩, fun hle => absurd hle h, fun _ => rfl⟩

/-- A body of seven nodes passes where seven are allowed and is too large where six are. -/
theorem nested_body_at_its_budget :
    let bytes := "[1,\x7b\"a\":[2,\x7b\x7d],\"b\":null\x7d]".toUTF8
    let value : Json := .arr [.int 1, .obj [("a", .arr [.int 2, .obj []]), ("b", .null)]]
    bytes.size ≤ 64 ∧ valueOfBytes? bytes = some value ∧ decode bytes ⟨64, 7⟩ = .ok value ∧
      decode bytes ⟨64, 6⟩ = .error (.requestEntityTooLarge "body has more than 6 nodes") := by
  intro bytes value
  have hbytes : bytes.size ≤ 64 := by decide +kernel
  have hvalue : valueOfBytes? bytes = some value := by decide +kernel
  have hallowed := node_budget_is_exact.2 bytes ⟨64, 7⟩ value hbytes hvalue
  have htooMany := node_budget_is_exact.2 bytes ⟨64, 6⟩ value hbytes hvalue
  exact ⟨hbytes, hvalue, hallowed.2.1 (by decide), htooMany.2.2 (by decide)⟩

end Body

end VirtualApi

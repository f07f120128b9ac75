import VirtualApi.Proofs.Kind.Listing

/-!
# Tables beside what they show

The columns of a table and the cells of its rows are computed apart from each other, and so are the
table of a list and the token by which the list goes on. `Shows` says that cells belong to an object
and stand under the columns, and `LinesUp` that a table belongs to a value. The main theorem,
`table_lines_up`, says so of every table, and that a caller who takes the tokens off the tables
visits the pages of one who takes them off the lists (`Server.follow`).
-/

namespace VirtualApi

/-- A number, a text or a truth value, which is what a cell can show. -/
inductive Json.IsScalar : Json → Prop where
  | str (s : String) : IsScalar (.str s)
  | num (n : Number) : IsScalar (.num n)
  | bool (b : Bool) : IsScalar (.bool b)

namespace TableConvertor

/-! ## Rows -/

/-- The cells are those of the object: one for each column, its name under the first one, its age
under the last one, and under each column between them what is found at its pointer. -/
structure Shows (convertor : TableConvertor) (now : Timestamp) (object : Json) (cells : List Json) :
    Prop where
  length : cells.length = convertor.columns.length
  name : convertor.columns.head? = some (nameColumn convertor.group convertor.resource) ∧
    cells.head? = some (.str (objectName object))
  age : convertor.columns.getLast? = some ageColumn ∧
    cells.getLast? = some (.str (Age.ofObject object now))
  extra : ∀ i column, convertor.extra[i]? = some column →
    convertor.columns[i + 1]? = some column.definition ∧
      cells[i + 1]? = some (cell column.definition.type (object.pointer? column.pointer))
  scalar : ∀ c ∈ cells, c.IsScalar

/-- The objects that a value stands for: those of its array of items, or else itself. -/
inductive Holds (value : Json) : List Json → Prop where
  | list {objects : List Json} (h : value.get? "items" = some (.arr objects)) : Holds value objects
  | single (h : ∀ objects, value.get? "items" ≠ some (.arr objects)) : Holds value [value]

/-- The table belongs to the value: its rows are those of the objects in their order, its columns
are those of the convertor unless they are not wanted, and its token is that of the list unless it
is empty. -/
structure LinesUp (convertor : TableConvertor) (value : Json) (options : TableOptions)
    (now : Timestamp) (table : Table) : Prop where
  rows : ∃ objects, Holds value objects ∧
    List.Forall₂ (fun object row => convertor.Shows now object row.cells) objects table.rows
  columns : table.columns = if options.noHeaders then [] else convertor.columns
  token : ∀ token, table.metadata.continueToken = some token ↔
    (∃ objects, value.get? "items" = some (.arr objects)) ∧
      value.at? ["metadata", "continue"] = some (.str token) ∧ token ≠ ""

variable {convertor : TableConvertor} {now : Timestamp} {object value : Json}

/-- A cell shows something simple, whatever was found for it. -/
theorem is_scalar_cell (type : String) (found : Option Json) : (cell type found).IsScalar := by
  have hempty : (emptyCell type).IsScalar := by
    unfold emptyCell
    split
    · exact .num _
    · split
      · exact .bool _
      · exact .str _
  rcases found with _ | (_ | b | n | s | items | fields)
  · exact hempty
  · exact hempty
  · exact .bool b
  · exact .num n
  · exact .str s
  · exact .str _
  · exact .str _

/-- The cells of an object are its own. -/
theorem shows_cells (convertor : TableConvertor) (object : Json) (now : Timestamp) :
    convertor.Shows now object (convertor.cells object now) where
  length := by simp [cells, columns]
  name := ⟨rfl, rfl⟩
  age := by
    rw [columns, cells, ← List.cons_append, ← List.cons_append]
    exact ⟨List.getLast?_concat, List.getLast?_concat⟩
  extra := by
    intro i column hcolumn
    obtain ⟨hlt, -⟩ := List.getElem?_eq_some_iff.mp hcolumn
    have hmapped {α : Type} (f : Column → α) (last : α) :
        (convertor.extra.map f ++ [last])[i]? = some (f column) := by
      rw [List.getElem?_append_left (by simpa using hlt), List.getElem?_map, hcolumn]
      rfl
    exact ⟨hmapped _ _, hmapped _ _⟩
  scalar := by
    intro c hc
    simp only [cells, List.mem_cons, List.mem_append, List.mem_map, List.not_mem_nil,
      or_false] at hc
    rcases hc with rfl | ⟨column, -, rfl⟩ | rfl
    · exact .str _
    · exact is_scalar_cell ..
    · exact .str _

/-- The items of a value are the objects that it stands for. -/
theorem holds_items (value : Json) : Holds value (items value) := by
  unfold items
  split
  · next objects h => exact .list h
  · next h => exact .single h

/-- A text is read off a value that is that text. -/
theorem bind_str_eq_some_iff {found : Option Json} {text : String} :
    found.bind Json.str? = some text ↔ found = some (.str text) := by
  rcases found with _ | (_ | _) <;> simp [Json.str?]

/-- The token is that of a list, and not empty. -/
theorem continue_token_eq_some_iff {token : String} : continueToken? value = some token ↔
    (∃ objects, value.get? "items" = some (.arr objects)) ∧
      value.at? ["metadata", "continue"] = some (.str token) ∧ token ≠ "" := by
  unfold continueToken?
  split
  · next objects h =>
      rw [Option.filter_eq_some_iff, bind_str_eq_some_iff, decide_eq_true_iff]
      exact (and_iff_right ⟨objects, h⟩).symm
  · next h =>
      refine ⟨nofun, fun ⟨⟨objects, hobjects⟩, _⟩ => ?_⟩
      exact absurd hobjects (h objects)

/-- A table is made from the objects that a value stands for. -/
theorem lines_up_convert (convertor : TableConvertor) (value : Json) (options : TableOptions)
    (now : Timestamp) :
    LinesUp convertor value options now (convertor.convert value options now) where
  rows := by
    refine ⟨items value, holds_items value, List.forall₂_map_right_iff.mpr ?_⟩
    exact List.forall₂_same.mpr fun object _ => shows_cells convertor object now
  columns := rfl
  token := fun _ => continue_token_eq_some_iff

/-! ## Pages -/

/-- A list stands for its items. -/
theorem holds_page (page : ObjectList) : Holds page.toJson page.items := .list rfl

/-- The continue token of the table that shows a page with some options at some time. -/
def tokenShown (convertor : TableConvertor) (shown : ObjectList → TableOptions × Timestamp)
    (page : ObjectList) : Option String :=
  (convertor.convert page.toJson (shown page).1 (shown page).2).metadata.continueToken

/-- A table shows the token of its page, unless it is empty. -/
theorem token_shown_eq (convertor : TableConvertor) (shown : ObjectList → TableOptions × Timestamp)
    (page : ObjectList) :
    convertor.tokenShown shown page = page.metadata.continueToken.filter (· ≠ "") := by
  rcases page with ⟨_, _, ⟨_ | token, _ | version⟩, _⟩ <;> rfl

end TableConvertor

/-- What is behind a kind has no pages, or is a catalog whose pages are made from its entries. -/
inductive Backend.Paged : Backend → Prop where
  | catalog {α : Type} [CatalogEntry α] (catalog : Catalog α)
      (render : α → Except CatalogError Json) : Paged (.catalog (.ofCatalog catalog render))
  | compute (creator : Creator) : Paged (.compute creator)
  | lookup (source : LookupSource) : Paged (.lookup source)

/-- The token of a page that is made from entries is not empty. -/
theorem CatalogSource.token_ne_empty {α : Type} [CatalogEntry α] {catalog : Catalog α}
    {render : α → Except CatalogError Json} {options : ListOptions} {selector : Selector}
    {part : ListPart Json} (h : (ofCatalog catalog render).list options selector = .ok part) :
    part.continueToken ≠ some "" := by
  obtain ⟨page, hpage, hpart⟩ := result_bind_eq_ok_iff.mp h
  obtain ⟨items, -, hpart⟩ := result_bind_eq_ok_iff.mp hpart
  cases hpart
  obtain ⟨start, hstart⟩ := start_of_paginate hpage
  rcases paginate_cases catalog.entries selector hstart with ⟨-, hlast⟩ | ⟨-, -, hmore⟩
  · cases hlast.symm.trans hpage
    exact nofun
  · cases hmore.symm.trans hpage
    exact fun htoken => encode_continue_ne_empty _ (Option.some.inj htoken)

namespace Server

variable {server : Server} {resource : String} {ctx : RequestContext} {options : ListOptions}

/-- List objects and follow the tokens that are taken off the pages in some way, at most so
often. -/
def follow (server : Server) (token? : ObjectList → Option String) (ctx : RequestContext)
    (resource : String) : Nat → ListOptions → StateM World (List ObjectList × Option ApiError)
  | 0, _ => pure ([], none)
  | more + 1, options => do
      match ← (server.list ctx resource options).attempt with
      | .error e => pure ([], some e)
      | .ok page =>
          match token? page with
          | none => pure ([page], none)
          | some token => do
              let (pages, error) ←
                follow server token? ctx resource more (options.withContinue token)
              pure (page :: pages, error)

/-- Tokens that are taken off the pages as they are lead through all pages. -/
theorem follow_eq_list_all {token? : ObjectList → Option String}
    (h : ∀ options w page final, server.list ctx resource options w = (.ok page, final) →
      token? page = page.metadata.continueToken) (more : Nat) (options : ListOptions) :
    server.follow token? ctx resource more options = server.listAll ctx resource more options := by
  induction more generalizing options with
  | zero => rfl
  | succ more ih =>
      funext w
      unfold follow listAll
      rw [Action.attempt_bind_apply, Action.attempt_bind_apply]
      cases hlist : server.list ctx resource options w with
      | mk result final =>
          cases result with
          | error e => rfl
          | ok page =>
              have hsame := h options w page final hlist
              cases htoken : page.metadata.continueToken with
              | none => simp only [hsame, htoken]
              | some token => simp only [hsame, htoken, ih]

/-- No page of a kind has an empty token. -/
theorem token_ne_empty (hpaged : ∀ kind, server.kind resource = .ok kind → kind.backend.Paged)
    {w final : World} {page : ObjectList}
    (hlist : server.list ctx resource options w = (.ok page, final)) :
    page.metadata.continueToken ≠ some "" := by
  cases hkind : server.kind resource with
  | error e =>
      unfold Server.list acceptList at hlist
      rw [hkind] at hlist
      cases hlist
  | ok kind =>
      obtain ⟨-, selector, part, -, hpart, rfl⟩ := (list_eq_ok_iff hkind).mp hlist
      show part.continueToken ≠ some ""
      have hbackend := hpaged kind hkind
      unfold select at hpart
      generalize kind.backend = backend at hbackend hpart
      cases hbackend with
      | catalog catalog render => exact CatalogSource.token_ne_empty (congrArg (·.1) hpart)
      | compute creator => cases hpart
      | lookup source =>
          obtain ⟨items, _, _, hpart⟩ := Action.bind_eq_ok_iff.mp hpart
          cases hpart
          exact nofun

end Server

/-- Tables line up with what they show. Every table has a row for each object of the value that it
is made from, in their order, with a cell for each column, and shows the token of a list that goes
on. So a caller who takes the tokens off the tables of the pages, made in whatever way, visits the
pages of one who takes them off the lists, and each table has the rows of its page. -/
theorem table_lines_up :
    (∀ (convertor : TableConvertor) (value : Json) (options : TableOptions) (now : Timestamp),
        convertor.LinesUp value options now (convertor.convert value options now)) ∧
      (∀ page : ObjectList, TableConvertor.Holds page.toJson page.items) ∧
      ∀ (server : Server) (resource : String),
        (∀ kind, server.kind resource = .ok kind → kind.backend.Paged) →
        ∀ (convertor : TableConvertor) (shown : ObjectList → TableOptions × Timestamp)
          (ctx : RequestContext) (more : Nat) (options : ListOptions),
          server.follow (convertor.tokenShown shown) ctx resource more options =
            server.listAll ctx resource more options := by
  refine ⟨TableConvertor.lines_up_convert, TableConvertor.holds_page, ?_⟩
  intro server resource hpaged convertor shown ctx more options
  refine Server.follow_eq_list_all (fun options w page final hlist => ?_) more options
  have hne := Server.token_ne_empty hpaged hlist
  rw [TableConvertor.token_shown_eq]
  cases htoken : page.metadata.continueToken with
  | none => rfl
  | some token =>
      rw [htoken] at hne
      exact Option.filter_some_pos (decide_eq_true fun hempty => hne (congrArg some hempty))

/-- A convertor for deployments with a column of each type. -/
def deploymentTable : TableConvertor where
  group := "apps"
  resource := "deployments"
  extra := [
    { definition := { name := "Replicas", type := "integer" }, pointer := "/spec/replicas" },
    { definition := { name := "Paused", type := "boolean" }, pointer := "/spec/paused" },
    { definition := { name := "Ports", type := "string" }, pointer := "/spec/ports" },
    { definition := { name := "Load", type := "number" }, pointer := "/status/load" },
    { definition := { name := "Selector", type := "string" }, pointer := "/spec/selector" }]

/-- A page of two deployments, of which the second one says little. -/
def deploymentPage : Json :=
  .object [("metadata", .object [("continue", .str "2")]),
    ("items", .arr [
      .object [("metadata", .object [("name", .str "web"),
          ("creationTimestamp", .str "2024-05-01T10:00:00Z")]),
        ("spec", .object [("replicas", .int 3), ("paused", .bool true),
          ("ports", .arr [.int 80, .str "https"]), ("selector", .empty)])],
      .object [("metadata", .object [("name", .str "idle")]),
        ("spec", .object [("replicas", .null), ("paused", .str "no")])]])]

/-- Two hours after the first deployment was created. -/
def noon : Timestamp := ⟨19844, 43200, 0⟩

/-- The two deployments are shown in a table with their cells, and the six descriptors that come
with the library are listed on two pages, whether the token is taken off the list or off its
table. -/
theorem descriptors_listed_by_tables :
    (deploymentTable.LinesUp deploymentPage {} noon
        (deploymentTable.convert deploymentPage {} noon) ∧
      (deploymentTable.convert deploymentPage {} noon).rows.map (·.cells) =
        [[.str "web", .int 3, .bool true, .str "80,https", .int 0, .str "\x7b\x7d", .str "2h0m"],
          [.str "idle", .int 0, .str "no", .str "", .int 0, .str "", .str "<unknown>"]]) ∧
    (∀ kind, Server.browser.kind "resourcedescriptors" = .ok kind → kind.backend.Paged) ∧
      ((Server.browser.follow (Kind.resourceDescriptor.table.tokenShown fun _ => ({}, default)) {}
        "resourcedescriptors" 9 { limit := some 5 } {}).1.1.map fun page =>
          page.items.map objectName) =
        [["apps-v1-deployments", "apps-v1-statefulsets", "batch-v1-jobs", "core-v1-configmaps",
          "core-v1-pods"], ["core-v1-services"]] := by
  have hpaged : ∀ kind, Server.browser.kind "resourcedescriptors" = .ok kind →
      kind.backend.Paged := by
    rintro kind ⟨rfl⟩
    exact .catalog standardDescriptors fun entry => .ok (CatalogEntry.toJson entry)
  refine ⟨⟨table_lines_up.1 deploymentTable deploymentPage {} noon, by decide +kernel⟩, hpaged, ?_⟩
  rw [table_lines_up.2.2 Server.browser "resourcedescriptors" hpaged]
  decide +kernel

end VirtualApi

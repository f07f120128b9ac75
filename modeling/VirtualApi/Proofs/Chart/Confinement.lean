import Mathlib.Tactic.SplitIfs
import VirtualApi.Chart.Registry
import VirtualApi.Proofs.Text.Split

/-!
# What a chart look-up sees of the files

The path of a chart is made from a group and a kind as a caller spells them. A path that begins with
a name and never goes up further than it went down is read alike in any two trees that agree on what
is at and below the root (`ChartRegistry.chart_for_confined`); a group and a kind without a slash
make such a path unless the group is `..` (`ChartRegistry.descends_of_plain`). The registry asks for
neither, and the group `..` reaches files beside the root (`ChartRegistry.parent_group_escapes`).
-/

namespace VirtualApi

namespace FileTree

variable {left right tree : FileTree} {place : Place} {root path : String}

/-! ## Walks below a place -/

/-- Names that never go up further than they went down, from a place that is some steps deep. -/
def StaysInside : Nat → List String → Prop
  | _, [] => True
  | depth, name :: rest =>
      if name = "." then StaysInside depth rest
      else if name = ".." then 0 < depth ∧ StaysInside (depth - 1) rest
      else StaysInside (depth + 1) rest

/-- Two trees with the same entries at and below a place. -/
def AgreeBelow (place : Place) (left right : FileTree) : Prop :=
  ∀ below, left.lookup (place ++ below) = right.lookup (place ++ below)

/-- A walk that stays inside is the same in both trees, and ends below the place. -/
theorem AgreeBelow.walk_eq (h : AgreeBelow place left right) {names : List String} :
    ∀ below : Place, StaysInside below.length names →
      left.walk (place ++ below) names = right.walk (place ++ below) names ∧
        ∀ last, left.walk (place ++ below) names = .ok last → place <+: last := by
  induction names with
  | nil => exact fun _ _ => ⟨rfl, fun last hlast => by cases hlast; exact List.prefix_append ..⟩
  | cons name rest ih =>
      intro below inside
      unfold StaysInside at inside
      simp only [walk, ← h below]
      cases left.lookup (place ++ below) with
      | none => exact ⟨rfl, nofun⟩
      | some entry =>
          cases entry with
          | file text => exact ⟨rfl, nofun⟩
          | directory =>
              dsimp only
              split_ifs at inside ⊢ with hstay hup hlong
              · exact ih below inside
              · have hne : below ≠ [] := List.ne_nil_of_length_pos inside.1
                rw [List.dropLast_append_of_ne_nil hne]
                exact ih _ (by rw [List.length_dropLast]; exact inside.2)
              · exact ⟨rfl, nofun⟩
              · rw [List.append_assoc]
                exact ih _ (by rw [List.length_append]; exact inside)

/-- A walk goes along the first names and then along the others. -/
theorem walk_append (tree : FileTree) (first others : List String) (place : Place) :
    tree.walk place (first ++ others) = (tree.walk place first).bind (tree.walk · others) := by
  induction first generalizing place with
  | nil => rfl
  | cons name rest ih =>
      simp only [List.cons_append, walk]
      cases tree.lookup place with
      | none => rfl
      | some entry =>
          cases entry with
          | file text => rfl
          | directory =>
              dsimp only
              split_ifs
              · exact ih _
              · exact ih _
              · rfl
              · exact ih _

/-! ## Paths below another one -/

/-- A path text that begins with a name and never goes up further than it went down. -/
structure Descends (path : String) : Prop where
  relative : path.toList.head? ≠ some '/'
  inside : StaysInside 0 (names path)

/-- What stands between the slashes of a path text. -/
def parts (path : String) : List String := (Text.splitOn '/' path.toList).map String.ofList

/-- The names of a path text, without the mark for a slash at its end. -/
def innerNames (path : String) : List String := (parts path).filter (· ≠ "")

theorem names_eq (path : String) :
    names path = innerNames path ++ if (parts path).getLast? = some "" then ["."] else [] := rfl

theorem parts_ne_nil (path : String) : parts path ≠ [] := by
  simpa [parts] using Text.split_on_ne_nil '/' path.toList

/-- A slash keeps the parts before it from those after it. -/
theorem parts_append (first second : String) :
    parts (first ++ "/" ++ second) = parts first ++ parts second := by
  simp [parts, Text.split_on_append_split_on]

/-- A path text has a name, if only the mark for a slash at its end. -/
theorem names_ne_nil (path : String) : names path ≠ [] := by
  intro hnames
  obtain ⟨hinner, hmark⟩ := List.append_eq_nil_iff.mp (names_eq path ▸ hnames)
  have hlast := List.getLast?_eq_some_getLast (parts_ne_nil path)
  have hempty : (parts path).getLast (parts_ne_nil path) = "" := by
    simpa using List.filter_eq_nil_iff.mp hinner _ (List.getLast_mem (parts_ne_nil path))
  rw [hempty] at hlast
  simp [hlast] at hmark

/-- Names after other parts follow the names of these. -/
theorem names_of_parts {before : List String} {joined : String}
    (h : parts joined = before ++ parts path) :
    names joined = before.filter (· ≠ "") ++ names path := by
  have hlast : (before ++ parts path).getLast? = (parts path).getLast? := by
    rw [List.getLast?_append, List.getLast?_eq_some_getLast (parts_ne_nil path), Option.some_or]
  rw [names_eq, names_eq, innerNames, innerNames, h, hlast, List.filter_append, List.append_assoc]

/-- A path below another one begins with the text of that one, and with its names. -/
theorem join_path_eq (root : String) (h : path.toList.head? ≠ some '/') :
    ∃ rest, joinPath root path = root ++ rest ∧
      names (joinPath root path) = innerNames root ++ names path := by
  unfold joinPath
  split_ifs with hroot hslash
  · have hempty : root = "" := hroot.resolve_left h
    subst hempty
    exact ⟨path, String.empty_append.symm, rfl⟩
  · obtain ⟨front, hfront⟩ := List.getLast?_eq_some_iff.mp hslash
    have heq : root = String.ofList front ++ "/" ++ "" := by
      rw [← String.toList_inj]
      simp [hfront]
    refine ⟨path, rfl, ?_⟩
    rw [innerNames, heq, parts_append, String.append_empty, names_of_parts (parts_append _ _)]
    simp [parts, Text.splitOn]
  · exact ⟨"/" ++ path, String.append_assoc, names_of_parts (parts_append root path)⟩

/-- The mark for a slash at the end is passed over by any name that follows. -/
theorem walk_inner_names (tree : FileTree) (root : String) {rest : List String} (h : rest ≠ []) :
    tree.walk [] (innerNames root ++ rest) =
      (tree.walk [] (names root)).bind (tree.walk · rest) := by
  have hmark (place : Place) : (tree.walk place ["."]).bind (tree.walk · rest) =
      tree.walk place rest := by
    obtain ⟨name, others, rfl⟩ := List.exists_cons_of_ne_nil h
    simp only [walk, if_true]
    cases hplace : tree.lookup place with
    | none => rfl
    | some entry => cases entry <;> simp [Except.bind, hplace]
  rw [names_eq]
  split_ifs
  · rw [walk_append, walk_append]
    cases tree.walk [] (innerNames root) with
    | error e => rfl
    | ok place => exact (hmark place).symm
  · rw [List.append_nil, walk_append]

/-! ## Trees that are alike under a root -/

/-- The root leads to the same place, or fails in the same way, in both trees, and they agree on
what is at and below it. -/
structure AlikeUnder (root : String) (left right : FileTree) : Prop where
  reached : left.resolve root = right.resolve root
  agree : ∀ {place}, left.resolve root = .ok place → AgreeBelow place left right

/-- Where a path below the root leads to, from where the root leads to. -/
theorem resolve_join (root : String) (h : path.toList.head? ≠ some '/') :
    ∃ refused : Option FileError, ∀ tree : FileTree, tree.resolve (joinPath root path) =
      refused.elim ((tree.resolve root).bind (tree.walk · (names path))) .error := by
  obtain ⟨rest, heq, hnames⟩ := join_path_eq root h
  unfold resolve
  by_cases hnul : (joinPath root path).toList.contains '\x00'
  · exact ⟨some .nulInName, fun tree => by rw [if_pos hnul]; rfl⟩
  by_cases hlong : maxPathBytes < (joinPath root path).utf8ByteSize
  · exact ⟨some .nameTooLong, fun tree => by rw [if_neg hnul, if_pos hlong]; rfl⟩
  -- what is asked of the whole text holds of its beginning as well
  have hrootNul : ¬root.toList.contains '\x00' := by
    rw [heq, String.toList_append] at hnul
    simp only [List.contains_iff_mem, List.mem_append, not_or] at hnul ⊢
    exact hnul.1
  have hrootLong : ¬maxPathBytes < root.utf8ByteSize := by
    rw [heq, String.utf8ByteSize_append] at hlong
    omega
  refine ⟨none, fun tree => ?_⟩
  rw [if_neg hnul, if_neg hlong, if_neg hrootNul, if_neg hrootLong, hnames,
    walk_inner_names tree root (names_ne_nil path)]
  rfl

/-- A path that descends is read alike under the root. -/
theorem AlikeUnder.read_eq (h : AlikeUnder root left right) (hpath : Descends path) :
    left.read (joinPath root path) = right.read (joinPath root path) := by
  obtain ⟨refused, hjoin⟩ := resolve_join root hpath.relative
  unfold read
  rw [hjoin left, hjoin right, ← h.reached]
  cases refused with
  | some e => rfl
  | none =>
      show (((left.resolve root).bind _) >>= _) = (((left.resolve root).bind _) >>= _)
      cases hroot : left.resolve root with
      | error e => rfl
      | ok place =>
          have hagree := h.agree hroot
          obtain ⟨hwalk, hends⟩ := hagree.walk_eq [] hpath.inside
          rw [List.append_nil] at hwalk hends
          show (left.walk place (names path) >>= _) = (right.walk place (names path) >>= _)
          rw [← hwalk]
          cases hlast : left.walk place (names path) with
          | error e => rfl
          | ok last =>
              obtain ⟨below, rfl⟩ := hends last hlast
              simp only [bind, Except.bind, hagree below]

end FileTree

namespace ChartRegistry

open FileTree (AlikeUnder Descends)

variable {registry : ChartRegistry} {group kind : String} {left right : World}

/-- What is found for a group and kind is the same under a root with the same files. -/
theorem fetch_eq {left right : FileTree} (h : AlikeUnder registry.root left right)
    (hpath : Descends (chartPath group kind)) :
    (registry.fetch left group kind).1 = (registry.fetch right group kind).1 := by
  have hread : left.read (registry.filePath (chartPath group kind)) =
      right.read (registry.filePath (chartPath group kind)) := h.read_eq hpath
  unfold fetch
  dsimp only
  rw [hread]
  cases right.read (registry.filePath (chartPath group kind)) with
  | ok text => rfl
  | error e =>
      cases e with
      | notFound =>
          -- what is found does not depend on whether it can be written
          cases bundledChart? (chartPath group kind) with
          | none => rfl
          | some chart =>
              dsimp only
              split <;> split <;> rfl
      | _ => rfl

/-- A chart that is not kept yet is the one that is found. -/
theorem chart_for_result (registry : ChartRegistry) (group kind : String) (w : World) :
    (registry.chartFor group kind w).1 =
      (kept? (chartPath group kind) w).elim (registry.fetch w.files group kind).1 .ok := by
  unfold chartFor
  cases hkept : kept? (chartPath group kind) w with
  | some chart => simp only [hkept, Option.elim]
  | none =>
      simp only [hkept, Option.elim]
      cases hfetch : registry.fetch w.files group kind with
      | mk result files =>
          cases result with
          | error e => rfl
          | ok chart =>
              have hlater : kept? (chartPath group kind) { w with files := files } = none := hkept
              simp only [keep, hlater]

/-! ## Paths of a group and a kind -/

/-- A text without a slash is one part of a path. -/
theorem parts_of_plain {text : String} (h : '/' ∉ text.toList) : FileTree.parts text = [text] := by
  rw [FileTree.parts, Text.split_on_of_not_mem h, List.map_singleton, String.ofList_toList]

/-- No other character becomes a slash in lower case. -/
theorem eq_slash_of_to_lower {c : Char} (h : c.toLower = '/') : c = '/' := by
  unfold Char.toLower at h
  split at h
  · next hupper =>
      have hge : 65 ≤ c.val.toNat := hupper.1
      have hle : c.val.toNat ≤ 90 := hupper.2
      have hval : (c.val.toNat + 32) % 2 ^ 32 = 47 := congrArg (fun d => d.val.toNat) h
      omega
  · exact h

/-- A group and a kind without a slash make a path that descends, unless the group is `..`. -/
theorem descends_of_plain (hgroup : '/' ∉ group.toList) (hparent : group ≠ "..")
    (hkind : '/' ∉ kind.toList) : Descends (chartPath group kind) := by
  obtain ⟨directory, hdirectory⟩ :
      ∃ directory, (if group = "" then "core" else group) = directory := ⟨_, rfl⟩
  obtain ⟨file, hfile⟩ : ∃ file, Text.asciiLower kind ++ ".yaml" = file := ⟨_, rfl⟩
  have hpath : chartPath group kind = directory ++ "/" ++ file := by
    rw [chartPath, hdirectory, String.append_assoc, hfile]
  have hplain : '/' ∉ directory.toList ∧ directory ≠ "" ∧ directory ≠ ".." := by
    rw [← hdirectory]
    split
    · decide
    · next hne => exact ⟨hgroup, hne, hparent⟩
  have hfilePlain : '/' ∉ file.toList := by
    rw [← hfile, Text.asciiLower, String.toList_append, String.toList_ofList, List.mem_append,
      List.mem_map]
    rintro (⟨c, hc, hlower⟩ | hsuffix)
    · exact hkind (eq_slash_of_to_lower hlower ▸ hc)
    · exact absurd hsuffix (by decide)
  -- the file has its extension, so it is neither empty nor one of the two special names
  have hlong : 5 ≤ file.length := by
    rw [← hfile, String.length_append]
    exact Nat.le_add_left ..
  have hname : file ≠ "" ∧ file ≠ "." ∧ file ≠ ".." := by
    refine ⟨?_, ?_, ?_⟩ <;> (rintro rfl; exact absurd hlong (by decide))
  have hnames : FileTree.names (directory ++ "/" ++ file) = [directory, file] := by
    rw [FileTree.names_eq, FileTree.innerNames, FileTree.parts_append, parts_of_plain hplain.1,
      parts_of_plain hfilePlain]
    simp [hplain.2.1, hname.1]
  refine ⟨?_, ?_⟩
  · obtain ⟨first, rest, hlist⟩ : ∃ first rest, directory.toList = first :: rest :=
      List.exists_cons_of_ne_nil (by simpa using hplain.2.1)
    rw [hpath, String.append_assoc, String.toList_append, hlist]
    rintro hslash
    cases hslash
    exact hplain.1 (hlist ▸ List.mem_cons_self)
  · rw [hpath, hnames]
    by_cases hstay : directory = "." <;> simp [FileTree.StaysInside, hstay, hplain.2.2, hname.2]

/-! ## Confinement -/

/-- A look-up whose path descends gives the same chart or the same error in any two states of the
files that are alike under the root, as long as the same chart is kept for the path, or none. -/
theorem chart_for_confined (halike : AlikeUnder registry.root left.files right.files)
    (hpath : Descends (chartPath group kind))
    (hkept : kept? (chartPath group kind) left = kept? (chartPath group kind) right) :
    (registry.chartFor group kind left).1 = (registry.chartFor group kind right).1 := by
  rw [chart_for_result, chart_for_result, hkept, fetch_eq halike hpath]

/-- A root directory with nothing in it. -/
def bareRoot : FileTree := { entries := [(["charts"], .directory)] }

/-- A root directory with nothing in it, and a blank file beside it. -/
def fileBeside : FileTree := { entries := [(["charts"], .directory), (["outside.yaml"], .file "")] }

/-- A file beside the root makes no difference under it. -/
theorem alike_file_beside : AlikeUnder "charts" bareRoot fileBeside := by
  refine ⟨rfl, fun {place} hplace below => ?_⟩
  have hroot : place = ["charts"] := by cases hplace; rfl
  subst hroot
  simp [bareRoot, fileBeside, FileTree.lookup, List.lookup_cons]

/-- A look-up that descends does not see the file beside the root. -/
theorem file_beside_unseen :
    AlikeUnder "charts" bareRoot fileBeside ∧ Descends (chartPath "." "Outside") ∧
      ((ChartRegistry.mk "charts").chartFor "." "Outside" { files := bareRoot }).1 =
        ((ChartRegistry.mk "charts").chartFor "." "Outside" { files := fileBeside }).1 := by
  have hpath : Descends (chartPath "." "Outside") :=
    descends_of_plain (by decide) (by decide) (by decide)
  refine ⟨alike_file_beside, hpath, ?_⟩
  exact chart_for_confined alike_file_beside hpath rfl

/-- The group `..` leads out of the root: with nothing kept and the same files below `charts`, a
file beside it decides between an unknown kind and a chart that does not decode. -/
theorem parent_group_escapes :
    ¬∀ (registry : ChartRegistry) (group kind : String) (left right : World),
      AlikeUnder registry.root left.files right.files → left.charts = [] → right.charts = [] →
        (registry.chartFor group kind left).1 = (registry.chartFor group kind right).1 := by
  intro hconfined
  have hleft : ((ChartRegistry.mk "charts").chartFor ".." "Outside" { files := bareRoot }).1 =
      .error (.badRequest "no editor chart for kind \"Outside\" in group \"..\"") := rfl
  have hright : ((ChartRegistry.mk "charts").chartFor ".." "Outside" { files := fileBeside }).1 =
      .error (.internal "decode chart charts/../outside.yaml: ") := rfl
  have hsame := hconfined ⟨"charts"⟩ ".." "Outside" { files := bareRoot } { files := fileBeside }
    alike_file_beside rfl rfl
  rw [hleft, hright] at hsame
  exact nomatch hsame

end ChartRegistry

end VirtualApi

import VirtualApi.Request.Action

/-!
# Where charts come from

A chart is read from a file below the root of a registry, whose path is made from the group and the
kind. Where there is no such file, a chart that comes with the library is used, and written there. A
chart that was found is kept: `ChartRegistry.chartFor` answers from what is kept first, and of two
charts found for one path the one that was kept first stays.
-/

namespace VirtualApi

/-- A registry of charts below a root directory. -/
structure ChartRegistry where
  root : String
deriving DecidableEq, Repr, Inhabited

namespace ChartRegistry

/-- The path of a chart below the root; the core group is spelled `core`. -/
def chartPath (group kind : String) : String :=
  (if group = "" then "core" else group) ++ "/" ++ Text.asciiLower kind ++ ".yaml"

/-- The root for a home directory, or for the current one when there is no home. -/
def defaultRoot (home : Option String) : String :=
  FileTree.joinPath (FileTree.joinPath (home.getD ".") ".kubeui") "charts"

/-! ## Charts that come with the library -/

/-- A kind of the core group or another one. -/
def component (group version kind : String) : GroupVersionKind := ⟨group, version, kind⟩

/-- The charts that come with the library, by their path. -/
def bundled : List (String × EditorChart) :=
  [("apps/deployment.yaml", {
      name := "deployment-editor"
      resource := component "apps" "v1" "Deployment"
      components := [component "" "v1" "Service", component "" "v1" "ConfigMap",
        component "" "v1" "Secret", component "" "v1" "ServiceAccount",
        component "autoscaling" "v2" "HorizontalPodAutoscaler"] }),
    ("apps/statefulset.yaml", {
      name := "statefulset-editor"
      resource := component "apps" "v1" "StatefulSet"
      components := [component "" "v1" "Service", component "" "v1" "ConfigMap",
        component "" "v1" "Secret", component "" "v1" "PersistentVolumeClaim"] }),
    ("core/pod.yaml", {
      name := "pod-editor"
      resource := component "" "v1" "Pod"
      components := [component "" "v1" "ConfigMap", component "" "v1" "Secret"] })]

/-- The names that a path goes through. A leading `.` and a leading slash count, an empty name or
`.` further on does not. -/
def pathNames (path : String) : List String :=
  match (Text.splitOn '/' path.toList).map String.ofList with
  | [] => []
  | first :: rest =>
      (if first = "" then "/" else first) :: rest.filter fun name => name ≠ "" ∧ name ≠ "."

/-- The chart that comes with the library for a path. -/
def bundledChart? (path : String) : Option EditorChart :=
  (bundled.find? fun (known, _) => pathNames known = pathNames path).map (·.2)

/-- The lines of a kind in the file of a chart, which leave out the core group. -/
def kindLines (gvk : GroupVersionKind) : List String :=
  (nonEmpty? gvk.group).toList.map ("group: " ++ ·) ++
    ["version: " ++ gvk.version, "kind: " ++ gvk.kind]

/-- The lines of an item of a list, of which the first one has the dash. -/
def itemLines : List String → List String
  | [] => []
  | first :: rest => ("  - " ++ first) :: rest.map ("    " ++ ·)

/-- The text of the file of a chart that comes with the library. -/
def fileText (chart : EditorChart) : String :=
  Text.join "\n" (["name: " ++ chart.name, "resource:"] ++
    (kindLines chart.resource).map ("  " ++ ·) ++
    "components:" :: chart.components.flatMap fun part => itemLines (kindLines part)) ++ "\n"

/-- The file of the chart of pods. -/
example : (bundledChart? "core/pod.yaml").map fileText =
    some ("name: pod-editor\nresource:\n  version: v1\n  kind: Pod\ncomponents:\n" ++
      "  - version: v1\n    kind: ConfigMap\n  - version: v1\n    kind: Secret\n") := by
  decide +kernel

/-! ## Reading and keeping -/

/-- The path of the file of a chart. -/
def filePath (registry : ChartRegistry) (path : String) : String :=
  FileTree.joinPath registry.root path

/-- Read the text of a chart; the origin says where the text is from. -/
def decode (origin text : String) : ApiResult EditorChart :=
  match EditorChart.ofText? text with
  | some chart => .ok chart
  | none => .error (.internal ("decode chart " ++ origin ++ ": "))

/-- Find the chart of a group and kind, together with the files after that. -/
def fetch (registry : ChartRegistry) (files : FileTree) (group kind : String) :
    ApiResult EditorChart × FileTree :=
  let path := registry.filePath (chartPath group kind)
  match files.read path with
  | .ok text => (decode path text, files)
  | .error .notFound =>
      match bundledChart? (chartPath group kind) with
      | some chart =>
          match files.write path (fileText chart) with
          | .ok files => (.ok chart, files)
          | .error _ => (.ok chart, files)
      | none =>
          (.error (.badRequest ("no editor chart for kind " ++ Text.quoted kind ++ " in group " ++
            Text.quoted group)), files)
  | .error e => (.error (.internal ("read " ++ path ++ ": " ++ e.message)), files)

/-- The chart that is kept for a path. -/
def kept? (path : String) (w : World) : Option EditorChart := w.charts.lookup path

/-- Keep a chart for a path, unless one is kept already; the one that is kept is the answer. -/
def keep (path : String) (chart : EditorChart) (w : World) : EditorChart × World :=
  match kept? path w with
  | some first => (first, w)
  | none => (chart, { w with charts := (path, chart) :: w.charts })

/-- The chart of a group and kind. -/
def chartFor (registry : ChartRegistry) (group kind : String) : Action EditorChart := fun w =>
  let path := chartPath group kind
  match kept? path w with
  | some chart => (.ok chart, w)
  | none =>
      match registry.fetch w.files group kind with
      | (.error e, files) => (.error e, { w with files := files })
      | (.ok chart, files) =>
          let (chart, w) := keep path chart { w with files := files }
          (.ok chart, w)

end ChartRegistry

end VirtualApi

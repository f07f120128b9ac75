import VirtualApi.Access.Attributes
import VirtualApi.Object.Meta

/-!
# Access reviews

A review asks the host cluster whether a caller may do something, and its status is the answer.
`AccessReview.ofAttributes` asks for the attributes of an access decision; a path that is no
resource comes before the fields of a resource.
-/

namespace VirtualApi

/-- The text, unless it is empty. -/
def nonEmpty? (text : String) : Option String := if text = "" then none else some text

/-- The resource that a review asks about. -/
structure ReviewedResource where
  namespaceName : Option String := none
  verb : Option String := none
  group : Option String := none
  version : Option String := none
  resource : Option String := none
  subresource : Option String := none
  name : Option String := none
deriving DecidableEq, Repr, Inhabited

/-- What a review asks about. -/
inductive ReviewSubject where
  | resource (resource : ReviewedResource)
  | path (path verb : Option String)
deriving DecidableEq, Repr, Inhabited

/-- A review: the caller and what is asked about. Absent and empty are the same. -/
structure AccessReview where
  user : Option String := none
  uid : Option String := none
  groups : List String := []
  extra : Entries (List String) := []
  subject : ReviewSubject
deriving DecidableEq, Repr, Inhabited

namespace AccessReview

/-- The API version of reviews. -/
def apiVersion : String := "authorization.k8s.io/v1"

/-- The kind of reviews. -/
def kind : String := "SubjectAccessReview"

/-- The resource that attributes are about. -/
def resourceOf (a : Attributes) : ReviewedResource where
  namespaceName := nonEmpty? a.namespaceName
  verb := nonEmpty? a.verb
  group := some a.group
  version := nonEmpty? a.version
  resource := nonEmpty? a.resource
  subresource := nonEmpty? a.subresource
  name := nonEmpty? a.name

/-- The review that asks for attributes. -/
def ofAttributes (a : Attributes) : AccessReview where
  user := nonEmpty? a.user.name
  uid := nonEmpty? a.user.uid
  groups := a.user.groups
  extra := a.user.extra
  subject :=
    if a.isResourceRequest then .resource (resourceOf a)
    else .path (nonEmpty? a.path) (nonEmpty? a.verb)

/-- What a review asks about, as a field. -/
def subjectField : ReviewSubject → String × Json
  | .resource r => ("resourceAttributes", .object (
      Json.field? "namespace" .str r.namespaceName ++ Json.field? "verb" .str r.verb ++
      Json.field? "group" .str r.group ++ Json.field? "version" .str r.version ++
      Json.field? "resource" .str r.resource ++ Json.field? "subresource" .str r.subresource ++
      Json.field? "name" .str r.name))
  | .path path verb => ("nonResourceAttributes", .object (
      Json.field? "path" .str path ++ Json.field? "verb" .str verb))

/-- A review as an object. -/
def toJson (review : AccessReview) : Json :=
  .object [("apiVersion", .str apiVersion), ("kind", .str kind), ("metadata", .empty),
    ("spec", .object (subjectField review.subject :: (
      Json.field? "user" .str review.user ++ Json.field? "uid" .str review.uid ++
      (if review.groups = [] then [] else [("groups", Json.texts review.groups)]) ++
      (if review.extra = [] then [] else [("extra", .obj (review.extra.mapValues Json.texts))]))))]

end AccessReview

/-- The answer to a review. -/
structure ReviewStatus where
  allowed : Bool := false
  denied : Option Bool := none
  evaluationError : Option String := none
  reason : Option String := none
deriving DecidableEq, Repr, Inhabited

namespace ReviewStatus

/-- Read an answer from an object. -/
def ofJson? : Json → Option ReviewStatus
  | .obj given => do
      let record : Json.Record := ⟨given⟩
      pure {
        allowed := (← record.optional "allowed" Json.bool?).getD false
        denied := ← record.optional "denied" Json.bool?
        evaluationError := ← record.optional "evaluationError" Json.str?
        reason := ← record.optional "reason" Json.str? }
  | _ => none

/-- The fields of what a review asks. -/
def specSchema : Schema :=
  .record (Schema.optionalFields [("extra", .map (.list .text)), ("groups", .list .text),
    ("nonResourceAttributes", .record (Schema.optionalFields [("path", .text), ("verb", .text)])),
    ("resourceAttributes", .record (Schema.optionalFields [("group", .text), ("name", .text),
      ("namespace", .text), ("resource", .text), ("subresource", .text), ("verb", .text),
      ("version", .text)])),
    ("uid", .text), ("user", .text)])

/-- What is expected of a review object. -/
def reviewShape : Shape :=
  .object ([("apiVersion", .exactly AccessReview.apiVersion),
    ("kind", .exactly AccessReview.kind)] ++
    Shape.optionalFields [("metadata", ObjectMeta.shape), ("spec", specSchema.shape),
      ("status", .object (Shape.optionalFields [("allowed", .bool), ("denied", .bool),
        ("evaluationError", .text), ("reason", .text)]))])

/-- Read the answer that a review object carries, if it does. -/
def ofReview? (review : Json) : Option (Option ReviewStatus) :=
  match review.get? "status" with
  | none | some .null => some none
  | some status => (ofJson? status).map some

end ReviewStatus

end VirtualApi

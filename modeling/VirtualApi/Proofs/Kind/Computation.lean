import VirtualApi.Kind.Computation
import VirtualApi.Proofs.Json.Record
import VirtualApi.Proofs.Request.Action
import VirtualApi.Server

/-!
# What stands before a computation

A computation is reached only by a body that carries a request, and only by a caller who passes.
`create_cases` says so: either both hold, or the answer is an error that does not depend on what
would have been computed.
-/

namespace VirtualApi

namespace Envelope

variable {Request Response : Type} {readRequest : Json → Option Request}
  {readResponse : Json → Option Response}

/-- The request of an envelope that is read from an object is read from the object's field. -/
theorem of_json_request {fields : Entries Json} {envelope : Envelope Request Response}
    {request : Request} (h : ofJson? readRequest readResponse (.obj fields) = some envelope)
    (hrequest : envelope.request = some request) :
    (fields.get? "request").bind readRequest = some request := by
  unfold ofJson? at h
  simp only [Option.bind_eq_bind, Option.bind_eq_some_iff, Option.pure_def] at h
  obtain ⟨record, hrecord, _, _, _, _, _, _, found, hfound, _, _, henvelope⟩ := h
  cases henvelope
  cases hrequest
  rw [← Json.Record.named_get hrecord (by decide)]
  unfold Json.Record.optional at hfound
  split at hfound
  · cases hfound
  · cases hfound
  · next value _ hget =>
      rw [hget]
      obtain ⟨a, ha, hsome⟩ := Option.map_eq_some_iff.mp hfound
      cases hsome
      exact ha

end Envelope

namespace GroupVersionKind

/-- Only an object is accepted as something that is sent. -/
theorem is_object_of_check_sent {gvk : GroupVersionKind} {body : Json}
    (h : gvk.checkSent body = .ok ()) : body.isObject = true := by
  unfold checkSent at h
  cases hobject : body.isObject with
  | true => rfl
  | false =>
      rw [hobject] at h
      cases h

/-- An object that is given its kind stays an object. -/
@[simp] theorem is_object_stamp {gvk : GroupVersionKind} {object : Json} :
    (gvk.stamp object).isObject = object.isObject := by
  unfold stamp fill
  split <;> split <;> simp

end GroupVersionKind

namespace Computation

variable {Request Response : Type} {c : Computation Request Response} {gvk : GroupVersionKind}
  {body : Json} {request : Request}

/-- The request that is read from what is sent is the one that the body, an object, carries. -/
theorem read_body_eq_ok (h : c.readBody gvk body = .ok request) :
    body.isObject = true ∧ (body.get? "request").bind c.readRequest = some request := by
  obtain ⟨_, hsent, hread⟩ := result_bind_eq_ok_iff.mp h
  have hobject := GroupVersionKind.is_object_of_check_sent hsent
  refine ⟨hobject, ?_⟩
  obtain ⟨fields, rfl⟩ := Json.eq_obj_of_is_object hobject
  split at hread
  · cases hread
  · next envelope henvelope =>
      split at hread
      · next carried hcarried =>
          cases hread
          exact Envelope.of_json_request henvelope hcarried
      · cases hread

/-- The response is a field of the answer. -/
theorem respond_response {response : Json} (h : body.isObject = true) (path : List String) :
    (respond gvk body response).at? ("response" :: path) = response.at? path := by
  have hstamp : (gvk.stamp body).isObject = true := by simp [h]
  rw [respond, Json.at_cons_eq (by simp [h]), Json.get_set_self hstamp]
  rfl

/-- An answer comes from a request that was read, for a caller who passed, and is what was
computed. -/
theorem create_eq_ok_iff {authorizer : Option Authorizer} {ctx : RequestContext} {out : Json}
    {w final : World} :
    c.create gvk authorizer ctx body w = (.ok out, final) ↔
      ∃ request target response asked passed, c.readBody gvk body = .ok request ∧
        c.accessTarget ctx request w = (.ok target, asked) ∧
        letPass ctx target authorizer asked = (.ok (), passed) ∧
        c.compute ctx request passed = (.ok response, final) ∧
        out = respond gvk body (c.writeResponse response) := by
  unfold create
  simp only [Action.bind_eq_ok_iff, Action.of_result_apply, Action.pure_apply]
  constructor
  · rintro ⟨request, _, hread, target, asked, htarget, _, passed, hpass, response, _, hcompute,
      hout⟩
    cases hout
    rcases hread' : c.readBody gvk body with _ | request'
    · rw [hread'] at hread
      cases hread
    · rw [hread'] at hread
      cases hread
      exact ⟨request, target, response, asked, passed, rfl, htarget, hpass, hcompute, rfl⟩
  · rintro ⟨request, target, response, asked, passed, hread, htarget, hpass, hcompute, rfl⟩
    exact ⟨request, w, by rw [hread], target, asked, htarget, (), passed, hpass, response, final,
      hcompute, rfl⟩

/-- Either a request is read and the caller passes, or the answer is an error, and the same
whatever would be computed. -/
theorem create_cases (c : Computation Request Response) (gvk : GroupVersionKind)
    (authorizer : Option Authorizer) (ctx : RequestContext) (body : Json) (w : World) :
    (∃ request target asked passed, c.readBody gvk body = .ok request ∧
        c.accessTarget ctx request w = (.ok target, asked) ∧
        letPass ctx target authorizer asked = (.ok (), passed)) ∨
      ∃ e final, ∀ compute,
        { c with compute := compute }.create gvk authorizer ctx body w = (.error e, final) := by
  cases hread : c.readBody gvk body with
  | error e =>
      refine Or.inr ⟨e, w, fun compute => ?_⟩
      have hsame : { c with compute := compute }.readBody gvk body = .error e := hread
      simp only [create, Action.bind_apply, Action.of_result_apply, hsame]
  | ok request =>
      have hsame compute : { c with compute := compute }.readBody gvk body = .ok request := hread
      rcases htarget : c.accessTarget ctx request w with ⟨e | target, asked⟩
      · refine Or.inr ⟨e, asked, fun compute => ?_⟩
        simp only [create, Action.bind_apply, Action.of_result_apply, hsame, htarget]
      · rcases hpass : letPass ctx target authorizer asked with ⟨e | _, passed⟩
        · refine Or.inr ⟨e, passed, fun compute => ?_⟩
          simp only [create, Action.bind_apply, Action.of_result_apply, hsame, htarget, hpass]
        · exact Or.inl ⟨request, target, asked, passed, rfl, htarget, hpass⟩

end Computation

namespace Server

variable {Request Response : Type} {server : Server} {resource : String} {kind : Kind}
  {c : Computation Request Response} {ctx : RequestContext} {body : Json}
  {options : CreateOptions} {w : World}

/-- Sending an object to a computation is refused for a dry run that is not known, and else
answered by the computation. -/
theorem create_computation (hkind : server.kind resource = .ok kind)
    (hbackend : kind.backend = .compute c.create) (hverb : kind.supports .create = true) :
    server.create ctx resource body options w =
      match options.dryRun.find? (· ≠ "All") with
      | some other => (.error (.badRequest ("invalid dry run option " ++ Text.quoted other)), w)
      | none => c.create kind.gvk server.authorizer ctx body w := by
  have haccept : server.acceptCreate resource options =
      match options.dryRun.find? (· ≠ "All") with
      | some other => .error (.badRequest ("invalid dry run option " ++ Text.quoted other))
      | none => .ok (kind, c.create) := by
    unfold acceptCreate
    rw [hkind]
    simp only [bind, Except.bind, hbackend, hverb, pure, Except.pure]
    rfl
  simp only [create, Action.bind_apply, Action.of_result_apply, haccept]
  cases options.dryRun.find? (· ≠ "All") with
  | none => rfl
  | some other => rfl

end Server

end VirtualApi

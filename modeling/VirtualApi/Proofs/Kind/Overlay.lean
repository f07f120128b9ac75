import VirtualApi.Proofs.Json.Ordered
import VirtualApi.Proofs.Kind.Computation
import VirtualApi.Proofs.Kind.Repeat

/-!
# What a computation puts over the object that is sent

A computation answers with the object that was sent: it names its kind and has the response, and all
its other fields are left as they are. What was sent as the response plays no part, as long as it
can be read, and the answer can be sent again.
-/

namespace VirtualApi

namespace GroupVersionKind

variable {fields : Entries Json} {field key value : String} {gvk : GroupVersionKind}

/-- A field that names something names this, or nothing yet. -/
def Names (field value : String) (fields : Entries Json) : Prop :=
  ∀ found, fields.get? field = some found → found = .str "" ∨ found = .str value

/-- The text of a field of an object. -/
theorem text_at_obj (field : String) (fields : Entries Json) :
    (Json.obj fields).textAt [field] = ((fields.get? field).bind Json.str?).getD "" := by
  rw [Json.textAt, Json.at_cons_eq rfl]
  show ((Option.bind (fields.get? field) some).bind Json.str?).getD "" = _
  rw [Option.bind_fun_some]

/-- The fields of an object after one was filled in. -/
def fillFields (field value : String) (fields : Entries Json) : Entries Json :=
  if (Json.obj fields).textAt [field] = "" then Entries.set field (.str value) fields else fields

/-- Filling in a field changes the fields of an object. -/
theorem fill_obj (field value : String) (fields : Entries Json) :
    fill field value (.obj fields) = .obj (fillFields field value fields) := by
  unfold fill fillFields
  split <;> rfl

/-- A field that names something has its name once it is filled in. -/
theorem get_fill_self (h : Names field value fields) :
    (fillFields field value fields).get? field = some (.str value) := by
  unfold fillFields
  rw [text_at_obj]
  cases hget : fields.get? field with
  | none => simp
  | some found =>
      rcases h found hget with rfl | rfl
      · simp [Json.str?]
      · by_cases hempty : value = "" <;> simp [Json.str?, hempty, hget]

/-- No other field is touched. -/
theorem get_fill_of_ne (h : key ≠ field) :
    (fillFields field value fields).get? key = fields.get? key := by
  unfold fillFields
  split
  · exact Entries.get_set_of_ne h fields
  · rfl

/-- The keys stay in order. -/
theorem ordered_fill (h : fields.Ordered) : (fillFields field value fields).Ordered := by
  unfold fillFields
  split
  · exact Entries.ordered_set h _ _
  · exact h

/-- A field names something, or nothing yet, when it holds no other value than a text and that text
is the name or empty. -/
theorem names_iff :
    Names field value fields ↔
      (∀ found, fields.get? field = some found → (Json.str? found).isSome) ∧
        ((Json.obj fields).textAt [field] = "" ∨ (Json.obj fields).textAt [field] = value) := by
  unfold Names
  rw [text_at_obj]
  cases fields.get? field with
  | none => simp
  | some found => cases found <;> simp [Json.str?]

/-- An object is accepted as a kind when both its texts are empty or those of the kind. -/
theorem check_sent_eq_ok_iff :
    gvk.checkSent (.obj fields) = .ok () ↔
      ((Json.obj fields).textAt ["apiVersion"] = "" ∨
          (Json.obj fields).textAt ["apiVersion"] = gvk.apiVersion) ∧
        ((Json.obj fields).textAt ["kind"] = "" ∨
          (Json.obj fields).textAt ["kind"] = gvk.kind) := by
  unfold checkSent
  rw [if_neg (by simp [Json.isObject])]
  dsimp only
  split
  · next hother =>
      refine ⟨nofun, fun h => ?_⟩
      rcases hother with ⟨hne, hother⟩ | ⟨hne, hother⟩
      · exact absurd h.1 (by simp [hne, hother])
      · exact absurd h.2 (by simp [hne, hother])
  · next haccepted =>
      simp only [not_or, Classical.not_and_iff_not_or_not, Classical.not_not] at haccepted
      exact ⟨fun _ => haccepted, fun _ => rfl⟩

end GroupVersionKind

/-- An envelope with a request is read from a record exactly when its request is one, and nothing
else in it is unreadable. -/
theorem Envelope.exists_of_json_iff {Request Response : Type} {readRequest : Json → Option Request}
    {readResponse : Json → Option Response} {request : Request} {value : Json}
    {record : Json.Record}
    (h : Json.Record.named? ["apiVersion", "kind", "metadata", "request", "response"] value =
      some record) :
    (∃ envelope, ofJson? readRequest readResponse value = some envelope ∧
        envelope.request = some request) ↔
      (record.withDefault "apiVersion" "" Json.str?).isSome ∧
        (record.withDefault "kind" "" Json.str?).isSome ∧
        (record.withDefault "metadata" {} ObjectMeta.ofJson?).isSome ∧
        record.optional "request" readRequest = some (some request) ∧
        (record.optional "response" readResponse).isSome := by
  unfold ofJson?
  rw [h]
  simp only [Option.bind_eq_bind, Option.bind_some, Option.bind_eq_some_iff, Option.pure_def,
    Option.isSome_iff_exists]
  constructor
  · rintro ⟨envelope, ⟨version, hversion, kind, hkind, metadata, hmetadata, carried, hcarried,
      response, hresponse, henvelope⟩, hrequest⟩
    cases henvelope
    cases hrequest
    exact ⟨⟨version, hversion⟩, ⟨kind, hkind⟩, ⟨metadata, hmetadata⟩, hcarried,
      ⟨response, hresponse⟩⟩
  · rintro ⟨⟨version, hversion⟩, ⟨kind, hkind⟩, ⟨metadata, hmetadata⟩, hcarried,
      ⟨response, hresponse⟩⟩
    exact ⟨_, ⟨version, hversion, kind, hkind, metadata, hmetadata, some request, hcarried,
      response, hresponse, rfl⟩, rfl⟩

namespace Computation

open GroupVersionKind (Names names_iff check_sent_eq_ok_iff)

variable {Request Response : Type} {c : Computation Request Response} {gvk : GroupVersionKind}
  {fields : Entries Json} {request : Request}

/-- The response of an object, where it has one, can be read. -/
def ReadsResponse (c : Computation Request Response) (object : Json) : Prop :=
  ∀ found, object.get? "response" = some found → found ≠ .null → (c.readResponse found).isSome

/-- An object that carries a request for a kind: it names the kind or nothing yet, and what else it
says can be read. -/
structure Carries (c : Computation Request Response) (gvk : GroupVersionKind)
    (fields : Entries Json) (request : Request) : Prop where
  apiVersion : Names "apiVersion" gvk.apiVersion fields
  kind : Names "kind" gvk.kind fields
  metadata : ∀ found, fields.get? "metadata" = some found → (ObjectMeta.ofJson? found).isSome
  request : ∃ found, fields.get? "request" = some found ∧ found ≠ .null ∧
    c.readRequest found = some request
  response : c.ReadsResponse (.obj fields)

/-- A body is read as a request when it is accepted as the kind and is an envelope with that
request. -/
theorem read_body_iff {body : Json} :
    c.readBody gvk body = .ok request ↔ gvk.checkSent body = .ok () ∧
      ∃ envelope, Envelope.ofJson? c.readRequest c.readResponse body = some envelope ∧
        envelope.request = some request := by
  unfold readBody
  rw [result_bind_eq_ok_iff]
  constructor
  · rintro ⟨⟨⟩, hsent, hread⟩
    refine ⟨hsent, ?_⟩
    cases henvelope : Envelope.ofJson? c.readRequest c.readResponse body with
    | none =>
        rw [henvelope] at hread
        cases hread
    | some envelope =>
        refine ⟨envelope, rfl, ?_⟩
        rw [henvelope] at hread
        cases hrequest : envelope.request with
        | none => simp [hrequest] at hread
        | some carried => simpa [hrequest] using hread
  · rintro ⟨hsent, envelope, henvelope, hrequest⟩
    exact ⟨(), hsent, by simp only [henvelope, hrequest]⟩

/-- A request is read from an object that carries it, and from no other. -/
theorem read_body_eq_ok_iff (h : fields.Ordered) :
    c.readBody gvk (.obj fields) = .ok request ↔ c.Carries gvk fields request := by
  obtain ⟨record, hrecord, hget⟩ := Json.Record.named_of_ordered h
    ["apiVersion", "kind", "metadata", "request", "response"]
  rw [read_body_iff, check_sent_eq_ok_iff, Envelope.exists_of_json_iff hrecord,
    Json.Record.with_default_isSome_iff, Json.Record.with_default_isSome_iff,
    Json.Record.with_default_isSome_iff, Json.Record.optional_eq_some_iff,
    Json.Record.optional_isSome_iff, hget "apiVersion" (by decide), hget "kind" (by decide),
    hget "metadata" (by decide), hget "request" (by decide), hget "response" (by decide)]
  constructor
  · rintro ⟨⟨hversion, hkind⟩, hversionText, hkindText, hmetadata, hrequest, hresponse⟩
    exact ⟨names_iff.mpr ⟨hversionText, hversion⟩, names_iff.mpr ⟨hkindText, hkind⟩, hmetadata,
      hrequest, hresponse⟩
  · intro h
    exact ⟨⟨(names_iff.mp h.apiVersion).2, (names_iff.mp h.kind).2⟩, (names_iff.mp h.apiVersion).1,
      (names_iff.mp h.kind).1, h.metadata, h.request, h.response⟩

/-! ## What is answered -/

/-- One object laid over another: it names the kind, and but for the response it has the fields of
the other. -/
structure Overlays (gvk : GroupVersionKind) (body out : Json) : Prop where
  apiVersion : out.get? "apiVersion" = some (.str gvk.apiVersion)
  kind : out.get? "kind" = some (.str gvk.kind)
  others : ∀ key, key ∉ ["apiVersion", "kind", "response"] → out.get? key = body.get? key

/-- Two objects that differ at most in their responses. -/
def AgreeButResponse (first second : Json) : Prop :=
  ∀ key, key ≠ "response" → first.get? key = second.get? key

variable {response : Json}

/-- The fields of the answer. -/
def respondFields (gvk : GroupVersionKind) (fields : Entries Json) (response : Json) :
    Entries Json :=
  Entries.set "response" response
    (GroupVersionKind.fillFields "kind" gvk.kind
      (GroupVersionKind.fillFields "apiVersion" gvk.apiVersion fields))

theorem respond_obj (gvk : GroupVersionKind) (fields : Entries Json) (response : Json) :
    respond gvk (.obj fields) response = .obj (respondFields gvk fields response) := by
  rw [respond, GroupVersionKind.stamp, GroupVersionKind.fill_obj, GroupVersionKind.fill_obj]
  rfl

theorem ordered_respond (gvk : GroupVersionKind) (response : Json) (h : fields.Ordered) :
    (respondFields gvk fields response).Ordered :=
  Entries.ordered_set (GroupVersionKind.ordered_fill (GroupVersionKind.ordered_fill h)) _ _

theorem get_respond_response :
    (respondFields gvk fields response).get? "response" = some response :=
  Entries.get_set_self ..

/-- The answer to what names the kind, or nothing yet, is laid over it. -/
theorem overlays_respond (response : Json) (hversion : Names "apiVersion" gvk.apiVersion fields)
    (hkind : Names "kind" gvk.kind fields) :
    Overlays gvk (.obj fields) (.obj (respondFields gvk fields response)) where
  apiVersion := by
    show (respondFields gvk fields response).get? "apiVersion" = _
    rw [respondFields, Entries.get_set_of_ne (by decide),
      GroupVersionKind.get_fill_of_ne (by decide), GroupVersionKind.get_fill_self hversion]
  kind := by
    have hfilled : Names "kind" gvk.kind
        (GroupVersionKind.fillFields "apiVersion" gvk.apiVersion fields) := by
      intro found hget
      rw [GroupVersionKind.get_fill_of_ne (by decide)] at hget
      exact hkind found hget
    show (respondFields gvk fields response).get? "kind" = _
    rw [respondFields, Entries.get_set_of_ne (by decide), GroupVersionKind.get_fill_self hfilled]
  others key hkey := by
    simp only [List.mem_cons, List.not_mem_nil, or_false, not_or] at hkey
    show (respondFields gvk fields response).get? key = fields.get? key
    rw [respondFields, Entries.get_set_of_ne hkey.2.2,
      GroupVersionKind.get_fill_of_ne hkey.2.1, GroupVersionKind.get_fill_of_ne hkey.1]

/-- There is one object that is laid over another with a response. -/
theorem respond_eq {out : Entries Json} (hversion : Names "apiVersion" gvk.apiVersion fields)
    (hkind : Names "kind" gvk.kind fields) (hfields : fields.Ordered) (hout : out.Ordered)
    (hover : Overlays gvk (.obj fields) (.obj out))
    (hresponse : out.get? "response" = some response) :
    respondFields gvk fields response = out := by
  have hrespond := overlays_respond response hversion hkind
  -- objects in order are the same when they have the same values under all keys
  refine Entries.eq_of_get_eq (ordered_respond gvk response hfields) hout fun key => ?_
  by_cases hkey : key ∈ ["apiVersion", "kind", "response"]
  · simp only [List.mem_cons, List.not_mem_nil, or_false] at hkey
    rcases hkey with rfl | rfl | rfl
    · exact hrespond.apiVersion.trans hover.apiVersion.symm
    · exact hrespond.kind.trans hover.kind.symm
    · exact get_respond_response.trans hresponse.symm
  · exact (hrespond.others key hkey).trans (hover.others key hkey).symm

/-- What carries a request still does with another response that can be read. -/
theorem Carries.of_agree {others : Entries Json} (h : c.Carries gvk fields request)
    (hagree : AgreeButResponse (.obj others) (.obj fields))
    (hresponse : c.ReadsResponse (.obj others)) : c.Carries gvk others request where
  apiVersion found hget := h.apiVersion found ((hagree "apiVersion" (by decide)).symm.trans hget)
  kind found hget := h.kind found ((hagree "kind" (by decide)).symm.trans hget)
  metadata found hget := h.metadata found ((hagree "metadata" (by decide)).symm.trans hget)
  request := by
    obtain ⟨found, hget, hfound⟩ := h.request
    exact ⟨found, (hagree "request" (by decide)).trans hget, hfound⟩
  response := hresponse

/-- What is laid over something that carries a request carries it as well. -/
theorem Carries.of_overlays {out : Entries Json} (h : c.Carries gvk fields request)
    (hover : Overlays gvk (.obj fields) (.obj out))
    (hresponse : out.get? "response" = some response)
    (hread : (c.readResponse response).isSome) : c.Carries gvk out request where
  apiVersion found hget := Or.inr (Option.some.inj (hget.symm.trans hover.apiVersion))
  kind found hget := Or.inr (Option.some.inj (hget.symm.trans hover.kind))
  metadata found hget :=
    h.metadata found ((hover.others "metadata" (by decide)).symm.trans hget)
  request := by
    obtain ⟨found, hget, hfound⟩ := h.request
    exact ⟨found, (hover.others "request" (by decide)).trans hget, hfound⟩
  response found hget _ := by
    cases hresponse.symm.trans hget
    exact hread

/-! ## Answering again -/

/-- A computation that answers again, and whose answers can be read. -/
structure Repeatable (c : Computation Request Response) (ctx : RequestContext) : Prop where
  target : ∀ request, (c.accessTarget ctx request).Repeats ctx
  compute : ∀ request, (c.compute ctx request).Repeats ctx
  readable : ∀ {request w response final}, c.compute ctx request w = (.ok response, final) →
    (c.readResponse (c.writeResponse response)).isSome

variable {authorizer : Option Authorizer} {ctx : RequestContext} {body other out : Json}
  {w final later : World}

/-- What is answered was read from an object that carries a request, and is laid over it. -/
theorem carries_of_create (hbody : body.Ordered)
    (h : c.create gvk authorizer ctx body w = (.ok out, final)) :
    ∃ fields : Entries Json, ∃ request target response asked passed,
      body = .obj fields ∧ fields.Ordered ∧
      c.Carries gvk fields request ∧ c.accessTarget ctx request w = (.ok target, asked) ∧
      letPass ctx target authorizer asked = (.ok (), passed) ∧
      c.compute ctx request passed = (.ok response, final) ∧
      out = .obj (respondFields gvk fields (c.writeResponse response)) := by
  obtain ⟨request, target, response, asked, passed, hread, htarget, hpass, hcompute, rfl⟩ :=
    create_eq_ok_iff.mp h
  obtain ⟨fields, rfl⟩ := Json.eq_obj_of_is_object (read_body_eq_ok hread).1
  have hfields := (Json.ordered_obj_iff.mp hbody).1
  exact ⟨fields, request, target, response, asked, passed, rfl, hfields,
    (read_body_eq_ok_iff hfields).mp hread, htarget, hpass, hcompute, respond_obj ..⟩

/-- The answer is laid over what was sent. -/
theorem overlays_of_create (hbody : body.Ordered)
    (h : c.create gvk authorizer ctx body w = (.ok out, final)) : Overlays gvk body out := by
  obtain ⟨fields, request, _, response, _, _, rfl, -, hcarries, -, -, -, rfl⟩ :=
    carries_of_create hbody h
  exact overlays_respond _ hcarries.apiVersion hcarries.kind

/-- The response of an answer is what the computation gives for the request that was sent, once the
caller has passed the gate. -/
theorem response_of_create (hbody : body.Ordered)
    (h : c.create gvk authorizer ctx body w = (.ok out, final)) :
    ∃ sent request target response asked passed, body.get? "request" = some sent ∧
      c.readRequest sent = some request ∧ c.accessTarget ctx request w = (.ok target, asked) ∧
      letPass ctx target authorizer asked = (.ok (), passed) ∧
      c.compute ctx request passed = (.ok response, final) ∧
      out.get? "response" = some (c.writeResponse response) := by
  obtain ⟨fields, request, target, response, asked, passed, rfl, -, hcarries, htarget, hpass,
    hcompute, rfl⟩ := carries_of_create hbody h
  obtain ⟨sent, hsent, -, hread⟩ := hcarries.request
  exact ⟨sent, request, target, response, asked, passed, hsent, hread, htarget, hpass, hcompute,
    get_respond_response⟩

/-- What is sent as the response plays no part, as long as it can be read. -/
theorem create_of_agree (hbody : body.Ordered) (hother : other.Ordered)
    (h : c.create gvk authorizer ctx body w = (.ok out, final))
    (hagree : AgreeButResponse other body) (hresponse : c.ReadsResponse other) :
    c.create gvk authorizer ctx other w = (.ok out, final) := by
  obtain ⟨fields, request, target, response, asked, passed, rfl, hfields, hcarries, htarget, hpass,
    hcompute, rfl⟩ := carries_of_create hbody h
  -- only an object has the request of the other one
  obtain ⟨others, rfl⟩ : ∃ others, other = .obj others := by
    obtain ⟨found, hget, -⟩ := hcarries.request
    have hrequest : other.get? "request" = some found :=
      (hagree "request" (by decide)).trans hget
    cases other with
    | obj others => exact ⟨others, rfl⟩
    | _ => cases hrequest
  have hothers := (Json.ordered_obj_iff.mp hother).1
  have hcarriesOther := hcarries.of_agree hagree hresponse
  refine create_eq_ok_iff.mpr ⟨request, target, response, asked, passed,
    (read_body_eq_ok_iff hothers).mpr hcarriesOther, htarget, hpass, hcompute, ?_⟩
  -- both answers are laid over the other object
  have hover := overlays_respond (c.writeResponse response) hcarries.apiVersion hcarries.kind
  rw [respond_obj]
  refine congrArg Json.obj (respond_eq hcarriesOther.apiVersion hcarriesOther.kind hothers
    (ordered_respond gvk _ hfields) ⟨hover.apiVersion, hover.kind, fun key hkey => ?_⟩
    get_respond_response).symm
  refine (hover.others key hkey).trans (hagree key fun heq => hkey ?_).symm
  rw [heq]
  decide

/-- What was answered is answered again when it is sent. -/
theorem create_again (hc : c.Repeatable ctx) (hbody : body.Ordered)
    (h : c.create gvk authorizer ctx body w = (.ok out, final)) (hkeeps : final.Keeps later)
    (hlive : ctx.abort? (later.now + gateTime authorizer) = none) :
    ∃ again, c.create gvk authorizer ctx out later = (.ok out, again) := by
  obtain ⟨fields, request, target, response, asked, passed, rfl, hfields, hcarries, htarget, hpass,
    hcompute, rfl⟩ := carries_of_create hbody h
  have hover := overlays_respond (c.writeResponse response) hcarries.apiVersion hcarries.kind
  have hout := ordered_respond gvk (c.writeResponse response) hfields
  have hcarriesOut :=
    hcarries.of_overlays hover get_respond_response (hc.readable hcompute)
  -- charts stay kept through both runs, so that each part of the first is repeated in the second
  have hpassedKeeps : passed.Keeps final := by
    have hkept := (hc.compute request).keeps passed
    rwa [hcompute] at hkept
  have haskedKeeps : asked.Keeps passed := by
    have hkept := let_pass_keeps ctx target authorizer asked
    rwa [hpass] at hkept
  have hlater : ctx.abort? later.now = none :=
    RequestContext.abort_eq_none_of_le (Nat.le_add_right _ _) hlive
  obtain ⟨askedAgain, htargetAgain, hnow⟩ := (hc.target request).again htarget
    ((haskedKeeps.trans hpassedKeeps).trans hkeeps) hlater
  obtain ⟨passedAgain, hpassAgain, hliveAgain⟩ := let_pass_again hpass (by rw [hnow]; exact hlive)
  have hkeepsAgain : final.Keeps passedAgain := by
    have htargetKept := (hc.target request).keeps later
    have hpassKept := let_pass_keeps ctx target authorizer askedAgain
    rw [htargetAgain] at htargetKept
    rw [hpassAgain] at hpassKept
    exact (hkeeps.trans htargetKept).trans hpassKept
  obtain ⟨finalAgain, hcomputeAgain, -⟩ :=
    (hc.compute request).again hcompute hkeepsAgain hliveAgain
  refine ⟨finalAgain, create_eq_ok_iff.mpr ⟨request, target, response, askedAgain, passedAgain,
    (read_body_eq_ok_iff hout).mpr hcarriesOut, htargetAgain, hpassAgain, hcomputeAgain, ?_⟩⟩
  rw [respond_obj]
  exact congrArg Json.obj (respond_eq hcarriesOut.apiVersion hcarriesOut.kind hout hout
    ⟨hover.apiVersion, hover.kind, fun _ _ => rfl⟩ get_respond_response).symm

end Computation

end VirtualApi

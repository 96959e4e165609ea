import NotePager.Proofs.Api.Failure
import NotePager.Proofs.Api.Serving

/-!
# The bodies of errors

A request for an operation on notes is answered with the body of an error exactly when it `Fails`,
and the body is that of the failure (`Server.answer_error_iff`). What the server puts around the
service changes nothing about that (`Server.serve_json`). The one part of a body that need not fit
the request is its operation: for a request without an owner it is `get`, whatever has been asked
for (`Failure.operation`).
-/

namespace NotePager

open Access Encoding Http Text

/-! ## Bodies of errors -/

/-- Kinds of errors have different codes. -/
theorem ApiErrorKind.code_injective {k k' : ApiErrorKind} (h : k.code = k'.code) : k = k' := by
  cases k <;> cases k' <;> first | rfl | exact absurd h (by decide)

/-- Operations have different names. -/
theorem ApiOperation.name_injective {op op' : ApiOperation} (h : op.name = op'.name) :
    op = op' := by
  cases op <;> cases op' <;> first | rfl | exact absurd h (by decide)

/-- `ApiError.json` is injective: operation, kind and message can be read from the body. -/
theorem ApiError.json_injective {e e' : ApiError} (h : e.json = e'.json) : e = e' := by
  obtain ⟨operation, kind, message⟩ := e
  obtain ⟨operation', kind', message'⟩ := e'
  simp only [json, Json.object.injEq, List.cons.injEq, Prod.mk.injEq, Json.text.injEq,
    true_and, and_true] at h
  obtain ⟨rfl, hkind, -, hoperation⟩ := h
  rw [ApiErrorKind.code_injective hkind, ApiOperation.name_injective hoperation]

/-- The response is not that of an error. -/
structure Http.Response.Succeeds (response : Response) : Prop where
  status : response.status < 400
  body : ∀ e : ApiError, response.body ≠ .json e.json

/-- A response with `Page.json` and a status below 400 `Succeeds`. -/
theorem Page.json_succeeds (page : Page) {status : Nat} (hstatus : status < 400) :
    (Response.json status page.json).Succeeds where
  status := hstatus
  body e h := by simp [Response.json, Page.json, Page.jsonWith, ApiError.json] at h

/-- A response with `Note.json` and a status below 400 `Succeeds`. -/
theorem Note.json_succeeds (note : Note) {status : Nat} (hstatus : status < 400) :
    (Response.json status note.json).Succeeds where
  status := hstatus
  body e h := by simp [Response.json, Note.json, ApiError.json] at h

namespace Access

variable {ε α β : Type} {P : α → Prop}

/-- Whatever value the work comes to has the property. -/
def Yields (P : α → Prop) (work : Access ε α) : Prop := ∀ c a, (work c).1 = .ok a → P a

/-- `pure` of a value with a property `Yields` it. -/
theorem Yields.pure {a : α} (h : P a) : Yields P (pure a : Access ε α) := by
  rintro c _ ⟨⟩
  exact h

/-- Work that halts `Yields` any property, as it comes to no value. -/
theorem Yields.halt (halt : Halt ε) : Yields P (throw halt : Access ε α) := by
  rintro c _ ⟨⟩

/-- `Yields` of work in two parts goes by the second part, which comes to the value. -/
theorem Yields.bind {work : Access ε β} {k : β → Access ε α} (h : ∀ b, Yields P (k b)) :
    Yields P (work >>= k) := by
  intro c a ha
  rcases hwork : work c with ⟨halt | b, c'⟩
  · rw [bind_apply_error hwork] at ha
    cases ha
  · rw [bind_apply_ok hwork] at ha
    exact h b c' a ha

end Access

/-- `Notes.work` of any operation, if it comes to a response, comes to one that `Succeeds`. -/
theorem Notes.work_succeeds (settings : Settings) (occasion : Occasion) (limit : Nat)
    (segment : String) (r : Request) (op : ApiOperation) :
    Yields Response.Succeeds (work settings occasion limit segment r op) := by
  cases op with
  | list =>
    exact .bind fun _ => .bind fun _ => .bind fun _ => .bind fun page =>
      .pure (page.json_succeeds (by decide))
  | get =>
    refine .bind fun _ => .bind fun _ => .bind fun _ => .bind fun found => ?_
    cases found with
    | none => exact .halt _
    | some note => exact .pure (note.json_succeeds (by decide))
  | create =>
    exact .bind fun _ => .bind fun _ => .bind fun _ => .bind fun note =>
      .pure (note.json_succeeds (by decide))
  | update =>
    refine .bind fun _ => .bind fun _ => .bind fun _ => .bind fun patch => .bind fun _ => ?_
    split
    · refine .bind fun _ => .bind fun found => ?_
      cases found with
      | none => exact .halt _
      | some note => exact .pure (note.json_succeeds (by decide))
    · refine .bind fun found => ?_
      cases found with
      | none => exact .halt _
      | some note => exact .pure (note.json_succeeds (by decide))
  | delete =>
    refine .bind fun _ => .bind fun _ => .bind fun _ => .bind fun found => ?_
    cases found with
    | false => exact .halt _
    | true => exact .pure ⟨by decide, fun e => by rintro ⟨⟩⟩

namespace Server

variable {settings : Settings} {occasion : Occasion} {limit : Nat} {r : Request}
  {op : ApiOperation} {c : Connection} {response : Response} {e : ApiError}

/-- `Server.answer` of a request for an operation is what `Notes.work` comes to, with the response
of a `Refusal` in place of the refusal. -/
theorem answer_called {resource : Resource} (hpath : Resource.ofPath? r.path = some resource)
    (hop : resource.operation? r.method = some op) :
    (answer settings occasion limit r c).1.response?
      = match (Notes.work settings occasion limit resource.segment r op c).1 with
        | .ok response => some response
        | .error halt => halt.error?.map Refusal.response := by
  simp only [answer, hpath, endpoint_eq hop]
  rcases Notes.work settings occasion limit resource.segment r op c with
    ⟨(refusal | w | _) | response, c'⟩ <;> rfl

/-- `Server.answer` has the body of an `ApiError` exactly when the request `Fails`. The error is
`Failure.told` of the failure, and the rest of the response is `ApiError.response`. -/
theorem answer_error_iff (hop : called? r = some op) :
    (answer settings occasion limit r c).1.response? = some response
        ∧ response.body = .json e.json
      ↔ response = e.response ∧ ∃ f, Fails settings occasion limit r c op f ∧ f.told op = e := by
  obtain ⟨resource, hpath, hop⟩ := Option.bind_eq_some_iff.1 hop
  rw [answer_called hpath hop, ← Notes.error?_work hpath hop, error?]
  rcases hwork : (Notes.work settings occasion limit resource.segment r op c).1 with halt | told
  · constructor
    · rintro ⟨hresponse, hbody⟩
      obtain ⟨refusal, hhalt, rfl⟩ := Option.map_eq_some_iff.1 hresponse
      cases refusal with
      | error e' =>
        cases ApiError.json_injective (Body.json.inj hbody)
        exact ⟨rfl, hhalt⟩
      | badPath => cases hbody
    · rintro ⟨rfl, hhalt⟩
      exact ⟨Option.map_eq_some_iff.2 ⟨_, hhalt, rfl⟩, rfl⟩
  · constructor
    · rintro ⟨⟨⟩, hbody⟩
      exact absurd hbody ((Notes.work_succeeds _ _ _ _ _ _ _ _ hwork).body e)
    · rintro ⟨-, ⟨⟩⟩

end Server

/-! ## Truthful bodies -/

/-- The codes that are documented for a status. -/
def documentedCodes : Nat → List String
  | 400 => ["INVALID_CURSOR", "INVALID_LIMIT", "BAD_REQUEST"]
  | 401 => ["UNAUTHORIZED"]
  | 404 => ["NOT_FOUND"]
  | 416 => ["OFFSET_BEYOND_TOTAL"]
  | 422 => ["VALIDATION_FAILED"]
  | 500 => ["INTERNAL_ERROR"]
  | _ => []

/-- Every kind of error has one of the `documentedCodes` of its status. -/
theorem ApiErrorKind.documented (k : ApiErrorKind) : k.code ∈ documentedCodes k.status := by
  cases k <;> decide

/-- Every `Failure` with status 500 has the message `internalMessage`. -/
theorem Failure.internal {f : Failure} (h : f.kind.status = 500) : f.message = internalMessage := by
  cases f with
  | listing cause =>
    cases cause with
    | store => rfl
    | _ => cases h
  | store cause =>
    by_cases hfailure : cause.failure = .notFound
    · rw [kind, if_pos hfailure] at h
      cases h
    · exact if_neg hfailure
  | _ => cases h

/-- The error fits the request for an operation that it answers with this status. -/
structure ApiError.Truthful (settings : Settings) (occasion : Occasion) (limit : Nat) (r : Request)
    (c : Connection) (op : ApiOperation) (status : Nat) (e : ApiError) : Prop where
  /-- The status in the body is that of the response. -/
  same_status : e.kind.status = status
  /-- The code is one of those for the status. -/
  documented : e.kind.code ∈ documentedCodes status
  /-- The request fails, and both the code and the message are those of the failure. -/
  failure : ∃ f, Fails settings occasion limit r c op f ∧ e.kind = f.kind ∧ e.message = f.message
  /-- The operation is the one that has been asked for, if `callerOf` finds an owner, and `get`
  otherwise. -/
  operation : e.operation = match Notes.callerOf settings r with
    | .ok _ => op
    | .error _ => .get
  /-- With status 500 nothing of the store's own message is in it. -/
  internal : status = 500 → e.message = internalMessage

variable {settings : Settings} {occasion : Occasion} {limit : Nat} {r : Request}
  {op : ApiOperation} {c : Connection} {f : Failure}

/-- The operation that a `Failure` names is the one asked for when `callerOf` finds an owner, and
`get` when it finds none. -/
theorem Fails.operation_eq (h : Fails settings occasion limit r c op f) :
    f.operation op = match Notes.callerOf settings r with
      | .ok _ => op
      | .error _ => .get := by
  cases h with
  | nobody hcaller | query hcaller | parameters hcaller | listing hcaller | overdue hcaller
  | noteId hcaller | findFailed hcaller | findAbsent hcaller | draft hcaller | draftText hcaller
  | insertFailed hcaller | patch hcaller | patchText hcaller | patchEmpty hcaller
  | updateFailed hcaller | updateAbsent hcaller | deleteFailed hcaller | deleteAbsent hcaller =>
    rw [hcaller]
    rfl

/-- The error `Failure.told` of a request that `Fails` is `Truthful`, with the status of the kind of
failure. -/
theorem Fails.truthful (h : Fails settings occasion limit r c op f) :
    (f.told op).Truthful settings occasion limit r c op f.kind.status where
  same_status := rfl
  documented := f.kind.documented
  failure := ⟨f, h, rfl, rfl⟩
  operation := h.operation_eq
  internal := Failure.internal

namespace Server

/-- Every JSON body of an `ApiError` in an answer of `Server.serve` to a request for an operation is
`Truthful`: it has the status, the code and the message of a failure of the request, whatever faults
the calls of the store meet, and nothing of what the store says about them. It names the operation
asked for if `callerOf` finds an owner, and `get` otherwise. The same holds of `Server.answer` for
all limits on bodies, and every request that `Fails` is answered by such a body there. -/
theorem serve_errorBody (hop : called? r = some op) (settings : Settings) (header : String)
    (occasion : Occasion) (c : Connection) :
    (∀ e : ApiError, (serve settings header occasion r c).1.body = .json e.json →
      let got := received header occasion r
      e.Truthful settings occasion (bodyLimit settings got) got c op
        (serve settings header occasion r c).1.status)
    ∧ ∀ limit,
      (∀ response, (answer settings occasion limit r c).1.response? = some response →
        ∀ e : ApiError, response.body = .json e.json →
          e.Truthful settings occasion limit r c op response.status)
      ∧ ∀ f, Fails settings occasion limit r c op f →
        ∃ e : ApiError, (answer settings occasion limit r c).1.response? = some e.response
          ∧ e.kind = f.kind ∧ e.message = f.message := by
  have hservice {r : Request} (hop : called? r = some op) (limit : Nat) (response : Response)
      (hresponse : (answer settings occasion limit r c).1.response? = some response)
      (e : ApiError) (hbody : response.body = .json e.json) :
      e.Truthful settings occasion limit r c op response.status := by
    obtain ⟨rfl, f, hfails, rfl⟩ := (answer_error_iff hop).1 ⟨hresponse, hbody⟩
    exact hfails.truthful
  refine ⟨fun e hbody => ?_, fun limit => ⟨hservice hop limit, fun f hfails => ?_⟩⟩
  · obtain ⟨response, hresponse, hjson, hstatus⟩ := serve_json hbody
    dsimp only
    rw [hstatus]
    exact hservice (by rw [called?_received, hop]) _ response hresponse e hjson
  · obtain ⟨hresponse, -⟩ := (answer_error_iff hop).2 ⟨rfl, f, hfails, rfl⟩
    exact ⟨f.told op, hresponse, rfl, rfl⟩

/-- A request that a note be written, without the header for the owner. -/
def strayRequest : Request where
  method := "POST"
  path := "/api/v1/notes"

/-- `serve_errorBody` for `strayRequest`, which asks for `create`: the error is of the kind of a
caller who is not named, and its operation is `get`. -/
theorem serve_errorBody_stray : called? strayRequest = some .create
    ∧ ∃ e : ApiError, (answer {} firstOccasion 0 strayRequest { store := {} }).1.response?
        = some e.response
      ∧ e.kind = .unauthorized ∧ e.operation = .get := by
  have hop : called? strayRequest = some .create := by decide
  obtain ⟨htruth, htold⟩ := (serve_errorBody hop {} "x-request-id" firstOccasion
    { store := {} }).2 0
  obtain ⟨e, hresponse, hkind, -⟩ := htold _ (.nobody rfl)
  exact ⟨hop, e, hresponse, hkind, (htruth _ hresponse e rfl).operation⟩

/-- The operation in the body of an `ApiError` is not always the one that `called?` finds: for
`strayRequest` it is `get`. -/
theorem not_serve_errorBody_operation : ¬ ∀ (settings : Settings) (header : String)
    (occasion : Occasion) (r : Request) (c : Connection) (op : ApiOperation) (e : ApiError),
    called? r = some op → (serve settings header occasion r c).1.body = .json e.json →
      e.operation = op := by
  intro h
  have hoperation := h {} "x-request-id" firstOccasion strayRequest { store := {} }
    .create ⟨.get, .unauthorized, "missing x-user-id header"⟩ (by decide) rfl
  cases hoperation

end Server

end NotePager

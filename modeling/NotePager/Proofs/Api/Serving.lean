import NotePager.Proofs.Api.Effect

/-!
# Responses and the notes

A request that fails has done nothing, one that only reads does nothing, and any other has added,
patched or removed the one note that its response or its path names (`Accounts`). This holds of the
service alone (`answer_effect`) and of the server around it (`serve_effect`): the server answers
some requests itself, all of them with errors (`limited_effect`), and to the responses of the
service it adds headers (`serve_eq`).
-/

namespace NotePager

open Http Listing

/-! ## Headers -/

/-- `withHeader` leaves the status. -/
@[simp] theorem Http.Response.withHeader_status (response : Response) (name value : String) :
    (response.withHeader name value).status = response.status := by
  rw [withHeader]
  split <;> rfl

/-- `withHeader` leaves the body. -/
@[simp] theorem Http.Response.withHeader_body (response : Response) (name value : String) :
    (response.withHeader name value).body = response.body := by
  rw [withHeader]
  split <;> rfl

namespace Server

/-- `compress` leaves the status. -/
@[simp] theorem compress_status (r : Request) (response : Response) :
    (compress r response).status = response.status := by
  rw [compress]
  split <;> simp

/-- `compress` leaves the body, which is coded on its way only. -/
@[simp] theorem compress_body (r : Request) (response : Response) :
    (compress r response).body = response.body := by
  rw [compress]
  split <;> simp

/-- `finish` leaves the status. -/
@[simp] theorem finish_status (r : Request) (response : Response) :
    (finish r response).status = response.status := by
  simp only [finish, Response.withoutBody]
  split <;> split <;> try split
  all_goals simp

/-- `finish` leaves the body, except in the answer to a `HEAD`. -/
theorem finish_body (r : Request) (response : Response) :
    (finish r response).body = response.body ∨ r.method = "HEAD" := by
  by_cases hmethod : r.method = "HEAD"
  · exact .inr hmethod
  · simp only [finish, hmethod, if_false]
    split
    · split <;> simp
    · exact .inl rfl

/-- A JSON body that is there behind `finish` has been there before. -/
theorem finish_json {r : Request} {response : Response} {v : Json}
    (h : (finish r response).body = .json v) : response.body = .json v := by
  rw [finish] at h
  split at h
  · cases h
  · rw [← h]
    split
    · split <;> simp
    · rfl

variable {settings : Settings} {occasion : Occasion} {r : Request} {s s' : Store} {c : Connection}

/-! ## The service -/

/-- A request ends with an effect, or nothing has been done. A listing that is given up is answered
with an error. -/
def Outcome.Fits (settings : Settings) (occasion : Occasion) (r : Request) (s s' : Store) :
    Outcome → Prop
  | answered response => Effect settings occasion r s response s'
  | waiting overdue => s' = s ∧ ∀ response ∈ overdue, 400 ≤ response.status
  | crashed => s' = s

/-- `Server.answer` `Fits` what its endpoint does to a store with distinct identifiers: an `Effect`
with its response, or nothing. -/
theorem answer_effect (hs : c.store.DistinctIds) (settings : Settings) (occasion : Occasion)
    (limit : Nat) (r : Request) :
    (answer settings occasion limit r c).1.Fits settings occasion r c.store
      (answer settings occasion limit r c).2.store := by
  rw [answer]
  cases hpath : Resource.ofPath? r.path with
  | none => exact .nothing (.inl (by decide))
  | some resource =>
    rcases endpoint_effect hs settings occasion hpath limit c rfl with
      ⟨response, c', hanswer, heffect⟩ | ⟨halt, c', hanswer, hstore⟩
    · simp only [hanswer]
      exact heffect
    · rcases halt with refusal | w | _
      · simp only [hanswer]
        exact .failed hstore refusal.le_status
      · simp only [hanswer]
        refine ⟨hstore, fun response hresponse => ?_⟩
        obtain ⟨refusal, -, rfl⟩ := Option.map_eq_some_iff.1 (Option.mem_def.1 hresponse)
        exact refusal.le_status
      · simp only [hanswer]
        exact hstore

/-! ## The server -/

/-- What is answered with a response has an effect that fits the response. What is not answered has
none. -/
def Told (settings : Settings) (occasion : Occasion) (r : Request) (s s' : Store) :
    Option Response → Prop
  | some response => Effect settings occasion r s response s'
  | none => s' = s

/-- `Told` holds of a store that is left as it was and an answer that is an error, if there is
one. -/
theorem Told.failed {answer : Option Response} (hstore : s' = s)
    (hstatus : ∀ response ∈ answer, 400 ≤ response.status) :
    Told settings occasion r s s' answer := by
  cases answer with
  | none => exact hstore
  | some response => exact Effect.failed hstore (hstatus response rfl)

/-- The response that a request has ended with, or ends with when the time for a listing is over. -/
def Outcome.response? : Outcome → Option Response
  | answered response => some response
  | waiting overdue => overdue
  | crashed => none

/-- What the server answers to a request that ends in this way. A wait that nothing ends in time is
given up. -/
def Outcome.inTime (settings : Settings) (r : Request) : Outcome → Option Response
  | answered response => some (compress r response)
  | waiting (some overdue) =>
    if settings.listing.queryTimeoutMs ≤ settings.service.timeoutSecs * 1000 then
      some (compress r overdue)
    else some timedOut
  | waiting none => some timedOut
  | crashed => none

/-- How many bytes of the body are read. -/
def bodyLimit (settings : Settings) (r : Request) : Nat :=
  match announcedLength r with
  | some n => min settings.bodyLimitBytes n
  | none => settings.bodyLimitBytes

/-- `limited.run` is `Server.answer` with its outcome put `inTime`. -/
theorem limited_run_eq (settings : Settings) (occasion : Occasion) (r : Request) (c : Connection)
    (limit : Nat) : limited.run settings occasion r c limit
      = ((answer settings occasion limit r c).1.inTime settings r,
        (answer settings occasion limit r c).2) := by
  rw [limited.run]
  obtain ⟨response | (_ | overdue) | _, c'⟩ := answer settings occasion limit r c
  · rfl
  · rfl
  · simp only [Outcome.inTime]
    split <;> rfl
  · rfl

/-- `Server.limited` refuses with `tooLarge` what is announced to be too long, and is
`Server.answer` put `inTime` for any other request. -/
theorem limited_eq (settings : Settings) (occasion : Occasion) (r : Request) (c : Connection) :
    limited settings occasion r c = (some tooLarge, c)
    ∨ limited settings occasion r c
      = ((answer settings occasion (bodyLimit settings r) r c).1.inTime settings r,
        (answer settings occasion (bodyLimit settings r) r c).2) := by
  rw [limited, bodyLimit]
  cases announcedLength r with
  | none => exact .inr (limited_run_eq ..)
  | some n =>
    dsimp only
    split
    · exact .inl rfl
    · exact .inr (limited_run_eq ..)

/-- A response that `inTime` gives is `timedOut`, or `response?` of the outcome after `compress`. -/
theorem Outcome.response?_of_inTime {outcome : Outcome} {response : Response}
    (h : outcome.inTime settings r = some response) :
    response = timedOut ∨ ∃ told, outcome.response? = some told ∧ response = compress r told := by
  rcases outcome with told | (_ | overdue) | _
  · cases h
    exact .inr ⟨told, rfl, rfl⟩
  · cases h
    exact .inl rfl
  · rw [inTime] at h
    split at h
    · cases h
      exact .inr ⟨overdue, rfl, rfl⟩
    · cases h
      exact .inl rfl
  · cases h

/-- `Server.limited` has an effect that its answer `Told`: the answers it adds to those of
`Server.answer` are errors. -/
theorem limited_effect (hs : c.store.DistinctIds) (settings : Settings) (occasion : Occasion)
    (r : Request) :
    Told settings occasion r c.store (limited settings occasion r c).2.store
      (limited settings occasion r c).1 := by
  rcases limited_eq settings occasion r c with hlimited | hlimited
  · rw [hlimited]
    exact .failed rfl fun _ h => by cases h; decide
  · have hfits := answer_effect hs settings occasion (bodyLimit settings r) r
    rw [hlimited]
    generalize answer settings occasion (bodyLimit settings r) r c = run at hfits ⊢
    obtain ⟨response | (_ | overdue) | _, c'⟩ := run
    · exact Effect.of_response hfits (compress_status r response) (.inl (compress_body r response))
    · exact .failed hfits.1 fun _ h => by cases h; decide
    · obtain ⟨hstore, hstatus⟩ := hfits
      simp only [Outcome.inTime]
      split
      · exact .failed hstore fun _ h => by cases h; simpa using hstatus overdue rfl
      · exact .failed hstore fun _ h => by cases h; decide
    · exact hfits

/-- The request as the service gets it, with an identifier. -/
def received (header : String) (occasion : Occasion) (r : Request) : Request :=
  match r.headers.get? header with
  | some _ => r
  | none => { r with headers := r.headers ++ [(header, requestName occasion.requestId)] }

/-- `received` leaves the method. -/
@[simp] theorem received_method (header : String) (occasion : Occasion) (r : Request) :
    (received header occasion r).method = r.method := by
  rw [received]
  split <;> rfl

/-- `received` leaves the path. -/
@[simp] theorem received_path (header : String) (occasion : Occasion) (r : Request) :
    (received header occasion r).path = r.path := by
  rw [received]
  split <;> rfl

/-- `received` leaves the operation that is asked for. -/
@[simp] theorem called?_received (header : String) (occasion : Occasion) (r : Request) :
    called? (received header occasion r) = called? r := by
  simp only [called?, received_path, received_method]

/-- The response that leaves the server, for a request with this identifier. -/
def sent (header name : String) (r : Request) : Option Response × Connection → Response × Connection
  | (some response, c) => (finish r (response.withHeader header name), c)
  | (none, c) => (finish r broken, c)

/-- The identifier of the request. -/
def nameOf (header : String) (occasion : Occasion) (r : Request) : String :=
  (r.headers.get? header).getD (requestName occasion.requestId)

/-- `Server.serve` in three steps: the request is `received` with an identifier, answered by
`limited`, and the answer is `sent` with the identifier. -/
theorem serve_eq (settings : Settings) (header : String) (occasion : Occasion) (r : Request)
    (c : Connection) : serve settings header occasion r c
      = sent header (nameOf header occasion r) (received header occasion r)
        (limited settings occasion (received header occasion r) c) := by
  delta serve received nameOf
  cases r.headers.get? header with
  | some name =>
    dsimp only [Option.getD]
    generalize limited settings occasion r c = run
    obtain ⟨_ | response, c'⟩ := run <;> rfl
  | none =>
    dsimp only [Option.getD]
    generalize limited settings occasion _ c = run
    obtain ⟨_ | response, c'⟩ := run <;> rfl

/-- A JSON body in an answer of `Server.serve` is the body of what `Server.answer` gives to the
request as `received`, with the same status. -/
theorem serve_json {header : String} {v : Json}
    (h : (serve settings header occasion r c).1.body = .json v) :
    ∃ response, (answer settings occasion (bodyLimit settings (received header occasion r))
        (received header occasion r) c).1.response? = some response
      ∧ response.body = .json v
      ∧ (serve settings header occasion r c).1.status = response.status := by
  have hserve := serve_eq settings header occasion r c
  rw [hserve] at h ⊢
  generalize received header occasion r = r at *
  rcases limited_eq settings occasion r c with hlimited | hlimited
  · rw [hlimited] at h
    simpa [tooLarge, Response.text] using finish_json h
  · rw [hlimited] at h ⊢
    generalize answer settings occasion (bodyLimit settings r) r c = run at *
    cases hresponse : run.1.inTime settings r with
    | none =>
      rw [hresponse] at h
      cases finish_json h
    | some response =>
      rw [hresponse] at h
      have hbody := finish_json h
      rw [Response.withHeader_body] at hbody
      rcases Outcome.response?_of_inTime hresponse with rfl | ⟨told, htold, rfl⟩
      · cases hbody
      · exact ⟨told, htold, by simpa using hbody, by simp [sent]⟩

/-- `Server.serve` leaves the connection as it was, or as `Server.answer` to the request as
`received` leaves it. -/
theorem serve_connection (settings : Settings) (header : String) (occasion : Occasion)
    (r : Request) (c : Connection) :
    (serve settings header occasion r c).2 = c
      ∨ (serve settings header occasion r c).2
        = (answer settings occasion (bodyLimit settings (received header occasion r))
          (received header occasion r) c).2 := by
  have hserve := serve_eq settings header occasion r c
  have hsent (run : Option Response × Connection) :
      (sent header (nameOf header occasion r) (received header occasion r) run).2 = run.2 := by
    obtain ⟨_ | response, c'⟩ := run <;> rfl
  rw [hserve, hsent]
  rcases limited_eq settings occasion (received header occasion r) c with hlimited | hlimited
  · exact .inl (by rw [hlimited])
  · exact .inr (by rw [hlimited])

/-- `Server.serve` has an `Effect` of the request as `received` on a store with distinct
identifiers. -/
theorem serve_effect (hs : c.store.DistinctIds) (settings : Settings) (header : String)
    (occasion : Occasion) (r : Request) :
    Effect settings occasion (received header occasion r) c.store
      (serve settings header occasion r c).1 (serve settings header occasion r c).2.store := by
  have hserve := serve_eq settings header occasion r c
  have htold := limited_effect hs settings occasion (received header occasion r)
  rw [hserve]
  generalize nameOf header occasion r = name
  generalize limited settings occasion (received header occasion r) c = run at htold ⊢
  obtain ⟨_ | response, c'⟩ := run
  · exact .failed htold ((finish_status _ broken).symm ▸ by decide)
  · have hstatus := finish_status (received header occasion r) (response.withHeader header name)
    have hbody := finish_body (received header occasion r) (response.withHeader header name)
    rw [Response.withHeader_status] at hstatus
    rw [Response.withHeader_body] at hbody
    exact Effect.of_response htold hstatus hbody

/-! ## Responses account for the notes -/

/-- The response to a request fits what has become of the notes of the store `s`. -/
structure Accounts (settings : Settings) (occasion : Occasion) (r : Request) (s : Store)
    (response : Response) (s' : Store) : Prop where
  /-- A request that fails has done nothing. -/
  failed : 400 ≤ response.status → s' = s
  /-- A request that only reads has done nothing. -/
  reading : r.method = "GET" ∨ r.method = "HEAD" → s' = s
  /-- The note in the response is new and the caller's. It stands behind the others. -/
  added : r.method = "POST" → response.status < 400 → ∃ note : Note,
    response.body = .json note.json ∧ note.id = occasion.noteId
      ∧ Notes.callerOf settings r = .ok note.owner ∧ (∀ n ∈ s.notes, n.id ≠ note.id)
      ∧ s'.notes = s.notes ++ [note]
  /-- The note in the response has taken the place of the caller's note that the path names. -/
  patched : r.method = "PATCH" → response.status < 400 → ∃ (front : List Note) (n note : Note)
    (back : List Note), response.body = .json note.json ∧ namedNote? r.path = some n.id
      ∧ note.id = n.id ∧ Notes.callerOf settings r = .ok n.owner ∧ note.owner = n.owner
      ∧ s.notes = front ++ n :: back ∧ s'.notes = front ++ note :: back
  /-- The caller's note that the path names is gone. -/
  removed : r.method = "DELETE" → response.status < 400 → ∃ (front : List Note) (n : Note)
    (back : List Note), namedNote? r.path = some n.id ∧ Notes.callerOf settings r = .ok n.owner
      ∧ s.notes = front ++ n :: back ∧ s'.notes = front ++ back
  /-- There are no other requests that do not fail. -/
  known : response.status < 400 → r.method ∈ ["GET", "HEAD", "POST", "PATCH", "DELETE"]

/-- A response with an `Effect` `Accounts` for the store that is left. -/
theorem accounts_of_effect {response : Response}
    (h : Effect settings occasion r s response s') :
    Accounts settings occasion r s response s' := by
  cases h with
  | nothing hread =>
    have hmethod (hstatus : response.status < 400) : r.method = "GET" ∨ r.method = "HEAD" :=
      hread.resolve_left (Nat.not_le.2 hstatus)
    refine ⟨fun _ => rfl, fun _ => rfl, fun h hstatus => ?_, fun h hstatus => ?_,
      fun h hstatus => ?_, fun hstatus => ?_⟩
    · simpa [h] using hmethod hstatus
    · simpa [h] using hmethod hstatus
    · simpa [h] using hmethod hstatus
    · rcases hmethod hstatus with h | h <;> simp [h]
  | added hmethod hstatus hcaller hnote hbody hnew hnotes =>
    refine ⟨by omega, by simp [hmethod], fun _ _ => ?_, by simp [hmethod], by simp [hmethod],
      by simp [hmethod]⟩
    subst hnote
    exact ⟨_, hbody, rfl, hcaller, hnew, hnotes⟩
  | patched hmethod hstatus hcaller hid hnote hbody hcut hnotes =>
    refine ⟨by omega, by simp [hmethod], by simp [hmethod], fun _ _ => ?_, by simp [hmethod],
      by simp [hmethod]⟩
    subst hnote
    exact ⟨_, _, _, _, hbody, hid, rfl, hcaller, rfl, hcut, hnotes⟩
  | removed hmethod hstatus hcaller hid hcut hnotes =>
    refine ⟨by omega, by simp [hmethod], by simp [hmethod], by simp [hmethod], fun _ _ => ?_,
      by simp [hmethod]⟩
    exact ⟨_, _, _, hid, hcaller, hcut, hnotes⟩

/-- The responses of `Server.serve` are `Accounts` of what the request has done: an error leaves the
store as it was, and so does a request that only reads, and any other adds, patches or removes
exactly one note, the caller's, which the response or the path names. The same holds of what
`Server.answer` has `answered` for every limit on bodies, with whatever faults the calls of the
store meet, whether or not the caller gives up; where it has not `answered`, the store is as it
was. -/
theorem serve_accounts (hs : c.store.DistinctIds) (settings : Settings) (header : String)
    (occasion : Occasion) (r : Request) :
    Accounts settings occasion (received header occasion r) c.store
      (serve settings header occasion r c).1 (serve settings header occasion r c).2.store
    ∧ ∀ limit, (∀ response, (answer settings occasion limit r c).1 = .answered response →
        Accounts settings occasion r c.store response (answer settings occasion limit r c).2.store)
      ∧ ((∀ response, (answer settings occasion limit r c).1 ≠ .answered response) →
        (answer settings occasion limit r c).2.store = c.store) := by
  refine ⟨accounts_of_effect (serve_effect hs settings header occasion r), fun limit => ?_⟩
  have hfits := answer_effect hs settings occasion limit r
  refine ⟨fun response hresponse => ?_, fun hnone => ?_⟩
  · rw [hresponse] at hfits
    exact accounts_of_effect hfits
  · cases houtcome : (answer settings occasion limit r c).1 with
    | answered response => exact absurd houtcome (hnone response)
    | waiting overdue =>
      rw [houtcome] at hfits
      exact hfits.1
    | crashed =>
      rw [houtcome] at hfits
      exact hfits

/-- An occasion at the beginning of time. -/
def firstOccasion : Occasion := ⟨.ofSeconds 0, ⟨7⟩, ⟨8⟩⟩

/-- A request of an owner's that the note with the identifier 3 be removed. -/
def dropRequest (owner : String) : Request where
  method := "DELETE"
  path := "/api/v1/notes/000000000000000000000003"
  headers := [("x-user-id", owner)]

/-- `serve_accounts` for `dropRequest`: the note is gone from `teaStore` when its owner ann has
asked, and still there when ben has. -/
theorem serve_accounts_teaStore :
    let left (owner : String) : Store :=
      (serve {} "x-request-id" firstOccasion (dropRequest owner) { store := teaStore }).2.store
    teaStore.DistinctIds ∧ left "ben" = teaStore
      ∧ ∃ front n back, namedNote? (dropRequest "ann").path = some n.id
        ∧ teaStore.notes = front ++ n :: back ∧ (left "ann").notes = front ++ back := by
  intro left
  have hs : teaStore.DistinctIds := by decide
  have hserve (owner : String) := serve_accounts (c := { store := teaStore }) hs {} "x-request-id"
    firstOccasion (dropRequest owner)
  refine ⟨hs, (hserve "ben").1.failed (by decide +kernel), ?_⟩
  obtain ⟨front, n, back, hid, -, hcut, hnotes⟩ :=
    (hserve "ann").1.removed (received_method ..) (by decide +kernel)
  rw [received_path] at hid
  exact ⟨front, n, back, hid, hcut, hnotes⟩

end Server

end NotePager

import NotePager.Api.Body
import NotePager.Api.Error
import NotePager.Encoding.Percent
import NotePager.Http.QueryString
import NotePager.Paging.Listing
import NotePager.Settings.Basic

/-!
# Note endpoints

Listing, reading, creating, patching and deleting notes on behalf of the owner whom the request
names. Every endpoint asks for the owner first, then for the note that the path names, then for the
query or the body; nothing is written before all of them are known to be in order.
-/

namespace NotePager

open Encoding Http Text

/-- What the surroundings supply for one request. -/
structure Occasion where
  /-- The time. -/
  now : Instant
  /-- The identifier of the note that the request may create. -/
  noteId : NoteId
  /-- The identifier of the request, should it have none. -/
  requestId : NoteId

/-- Why an endpoint does not answer as it was asked to. -/
inductive Refusal where
  | error (e : ApiError)
  /-- The path is not text. -/
  | badPath

/-- The response of an endpoint that refuses. -/
def Refusal.response : Refusal → Response
  | error e => e.response
  | badPath => .text 400 "Invalid URL: Invalid UTF-8 in `id`"

namespace Notes

/-- The work of an endpoint. -/
abbrev Work (α : Type) := Access Refusal α

/-- Refuse with an error. -/
def refuse (e : ApiError) : Work α := Access.fail (.error e)

/-- Go on with a value, or refuse with what an error comes to. -/
def orRefuse (f : ε → ApiError) : Except ε α → Work α
  | .ok a => return a
  | .error e => refuse (f e)

/-- A call of the store. -/
def call (f : StoreError → ApiError) (work : Access StoreError α) : Work α :=
  work.mapError fun e => .error (f e)

/-- The owner whom the request names. -/
def callerOf (settings : Settings) (r : Request) : Except ApiError Owner :=
  let header := settings.auth.ownerHeader
  match ((r.headers.get? header).bind readable?).map trim with
  | none => .error (.unauthorized ("missing " ++ header ++ " header"))
  | some name =>
    if name.isEmpty then .error (.unauthorized ("missing " ++ header ++ " header"))
    else .ok ⟨name⟩

/-- The text that a segment of the path stands for. -/
def pathText (segment : String) : Work String :=
  match ofUtf8? (Percent.decode (utf8 segment)) with
  | some s => return s
  | none => Access.fail .badPath

/-- The note that the path names. -/
def noteNamed (raw : String) (operation : ApiOperation) : Except ApiError NoteId :=
  match NoteId.ofHex raw with
  | .ok id => .ok id
  | .error e => .error ((ApiError.badRequest ("invalid note id: " ++ e.message)).during operation)

/-- There is no such note of the owner. -/
def absent (id : NoteId) (operation : ApiOperation) : ApiError :=
  (ApiError.notFound ("note " ++ id.toHex ++ " not found")).during operation

/-- The error of a query string that gives no parameters. -/
def badQuery (e : QueryStringError) : ApiError :=
  .badRequest ("Failed to deserialize query string: " ++ e.message)

/-- The error of a body that is not taken. -/
def badBody (operation : ApiOperation) (e : BodyError) : ApiError :=
  (ApiError.badRequest e.message).during operation

section
variable [PatternEngine]

/-- A page of the owner's notes. A listing that does not come to an end is given up when its time is
over. -/
def list (settings : Settings) (r : Request) : Work Response := do
  let owner ← orRefuse id (callerOf settings r)
  let parameters ← orRefuse badQuery (Parameters.ofPairs (queryPairs (utf8 r.query)))
  let request ← orRefuse ApiError.ofList parameters.validate
  let overdue : ListError :=
    .store request.start.mode ⟨.find, .timeout, "list deadline elapsed"⟩
  let page ← fun c =>
    match (Listing.fetch owner request).settle c with
    | (.ok page, c) => (.ok page, c)
    | (.error (.failed e), c) => (.error (.failed (.error (.ofList e))), c)
    | (.error (.waiting _), c) => (.error (.waiting (some (.error (.ofList overdue)))), c)
    | (.error .crashed, c) => (.error .crashed, c)
  return .json 200 page.json

/-- One of the owner's notes. -/
def get (settings : Settings) (segment : String) (r : Request) : Work Response := do
  let owner ← orRefuse id (callerOf settings r)
  let raw ← pathText segment
  let id ← orRefuse id (noteNamed raw .get)
  match ← call (fun e => (ApiError.ofStore e).during .get) (.findOne (.ownedNote owner id)) with
  | none => refuse (absent id .get)
  | some note => return .json 200 note.json

end

/-- Write a note for the owner. -/
def create (settings : Settings) (occasion : Occasion) (limit : Nat) (r : Request) :
    Work Response := do
  let owner ← orRefuse id (callerOf settings r)
  let draft ← orRefuse (badBody .create) (readBody Draft.reader limit r)
  orRefuse ApiError.ofTextTooLong draft.check
  let note ← call ApiError.ofStore (.insert (draft.note occasion.noteId owner occasion.now))
  return .json 201 note.json

/-- Patch one of the owner's notes. -/
def update (settings : Settings) (occasion : Occasion) (limit : Nat) (segment : String)
    (r : Request) : Work Response := do
  let owner ← orRefuse id (callerOf settings r)
  let raw ← pathText segment
  let id ← orRefuse id (noteNamed raw .update)
  let patch ← orRefuse (badBody .update) (readBody Patch.reader limit r)
  orRefuse (fun e => (ApiError.ofTextTooLong e).during .update) patch.check
  if patch.isEmpty then
    refuse ((ApiError.badRequest "patch must set title, body or color").during .update)
  match ← call ApiError.ofStore (.update owner id patch occasion.now) with
  | none => refuse (absent id .update)
  | some note => return .json 200 note.json

/-- Delete one of the owner's notes. -/
def delete (settings : Settings) (segment : String) (r : Request) : Work Response := do
  let owner ← orRefuse id (callerOf settings r)
  let raw ← pathText segment
  let id ← orRefuse id (noteNamed raw .delete)
  if ← call ApiError.ofStore (.delete owner id) then return .empty 204
  else refuse (absent id .delete)

end Notes

end NotePager

import NotePager.Proofs.Api.Endpoint

/-!
# Failures of requests

`Failure` lists what can be wrong with a request for an operation on notes, and `Fails` when it is:
one constructor for each way out of an endpoint, behind the checks that have passed before. An
endpoint comes to an error exactly when there is such a failure, and the error is `Failure.told` of
it (`Notes.error?_work`): of its kind, with its message, and of the operation that was asked for,
unless the request has no owner.
-/

namespace NotePager

open Access Encoding Http Text

/-! ## Failures -/

/-- What is wrong with a request for an operation on notes. -/
inductive Failure where
  /-- The header has no owner. -/
  | nobody (header : String)
  | query (cause : QueryStringError)
  /-- The parameters make no request, or the listing that they ask for cannot be given. -/
  | listing (cause : ListError)
  /-- The path names no note. -/
  | noteId (cause : NoteId.Error)
  | body (cause : BodyError)
  | text (cause : TextTooLong)
  /-- The patch sets nothing. -/
  | emptyPatch
  /-- The caller has no such note. -/
  | absent (id : NoteId)
  /-- A call of the store other than for a listing fails. -/
  | store (cause : StoreError)

namespace Failure

/-- The kind of error that a failed listing is. -/
def kindOfListing : ListError → ApiErrorKind
  | .invalidCursor _ => .invalidCursor
  | .invalidLimit _ => .invalidLimit
  | .badRequest _ => .badRequest
  | .offsetBeyondTotal .. => .offsetBeyondTotal
  | .notFound _ => .notFound
  | .store .. => .internalError

/-- The kind of error that a failure is. -/
def kind : Failure → ApiErrorKind
  | nobody _ => .unauthorized
  | query _ | noteId _ | body _ | emptyPatch => .badRequest
  | listing cause => kindOfListing cause
  | text _ => .validationFailed
  | absent _ => .notFound
  | store cause => if cause.failure = .notFound then .notFound else .internalError

/-- The message of the failure. -/
def message : Failure → String
  | nobody header => "missing " ++ header ++ " header"
  | query cause => "Failed to deserialize query string: " ++ cause.message
  | listing (.store ..) => internalMessage
  | listing cause => cause.message
  | noteId cause => "invalid note id: " ++ cause.message
  | body cause => cause.message
  | text cause => cause.message
  | emptyPatch => "patch must set title, body or color"
  | absent id => "note " ++ id.toHex ++ " not found"
  | store cause => if cause.failure = .notFound then cause.message else internalMessage

/-- The operation that the error of a failure names. It is `get` for a request without an owner,
whatever has been asked for. -/
def operation (op : ApiOperation) : Failure → ApiOperation
  | nobody _ => .get
  | _ => op

/-- The kind of a `StoreError` is `notFound` or `internalError`. -/
theorem kind_store (cause : StoreError) :
    (store cause).kind = .notFound ∨ (store cause).kind = .internalError := by
  by_cases h : cause.failure = .notFound
  · exact .inl (if_pos h)
  · exact .inr (if_neg h)

/-- The error for a failure of an operation. -/
def told (op : ApiOperation) (f : Failure) : ApiError := ⟨f.operation op, f.kind, f.message⟩

end Failure

/-- A request for an operation, which meets this connection, fails. The checks come in the order of
the hypotheses; a call of the store comes last. -/
inductive Fails (settings : Settings) (occasion : Occasion) (limit : Nat) (r : Request)
    (c : Connection) : ApiOperation → Failure → Prop
  | nobody {op : ApiOperation} {e : ApiError} (hcaller : Notes.callerOf settings r = .error e) :
      Fails settings occasion limit r c op (.nobody settings.auth.ownerHeader)
  | query {owner : Owner} {cause : QueryStringError}
      (hcaller : Notes.callerOf settings r = .ok owner)
      (hquery : Parameters.ofPairs (queryPairs (utf8 r.query)) = .error cause) :
      Fails settings occasion limit r c .list (.query cause)
  | parameters {owner : Owner} {p : Parameters} {cause : ListError}
      (hcaller : Notes.callerOf settings r = .ok owner)
      (hquery : Parameters.ofPairs (queryPairs (utf8 r.query)) = .ok p)
      (hvalid : p.validate = .error cause) :
      Fails settings occasion limit r c .list (.listing cause)
  | listing {owner : Owner} {p : Parameters} {request : ListRequest} {cause : ListError}
      (hcaller : Notes.callerOf settings r = .ok owner)
      (hquery : Parameters.ofPairs (queryPairs (utf8 r.query)) = .ok p)
      (hvalid : p.validate = .ok request)
      (hfetch : ((Listing.fetch owner request).settle c).1 = .error (.failed cause)) :
      Fails settings occasion limit r c .list (.listing cause)
  | overdue {owner : Owner} {p : Parameters} {request : ListRequest} {onCancel : Option ListError}
      (hcaller : Notes.callerOf settings r = .ok owner)
      (hquery : Parameters.ofPairs (queryPairs (utf8 r.query)) = .ok p)
      (hvalid : p.validate = .ok request)
      (hfetch : ((Listing.fetch owner request).settle c).1 = .error (.waiting onCancel)) :
      Fails settings occasion limit r c .list (.listing (Notes.overdue request))
  | noteId {op : ApiOperation} {owner : Owner} {segment raw : String} {cause : NoteId.Error}
      (hcaller : Notes.callerOf settings r = .ok owner)
      (hpath : Resource.ofPath? r.path = some (.note segment))
      (hraw : ofUtf8? (Percent.decode (utf8 segment)) = some raw)
      (hid : NoteId.ofHex raw = .error cause) :
      Fails settings occasion limit r c op (.noteId cause)
  | findFailed {owner : Owner} {id : NoteId} {cause : StoreError}
      (hcaller : Notes.callerOf settings r = .ok owner) (hid : namedNote? r.path = some id)
      (hcall : (Access.findOne (.ownedNote owner id)).error? c = some cause) :
      Fails settings occasion limit r c .get (.store cause)
  | findAbsent {owner : Owner} {id : NoteId}
      (hcaller : Notes.callerOf settings r = .ok owner) (hid : namedNote? r.path = some id)
      (hcall : (Access.findOne (.ownedNote owner id) c).1 = .ok none) :
      Fails settings occasion limit r c .get (.absent id)
  | draft {owner : Owner} {cause : BodyError}
      (hcaller : Notes.callerOf settings r = .ok owner)
      (hbody : readBody Draft.reader limit r = .error cause) :
      Fails settings occasion limit r c .create (.body cause)
  | draftText {owner : Owner} {draft : Draft} {cause : TextTooLong}
      (hcaller : Notes.callerOf settings r = .ok owner)
      (hbody : readBody Draft.reader limit r = .ok draft) (hcheck : draft.check = .error cause) :
      Fails settings occasion limit r c .create (.text cause)
  | insertFailed {owner : Owner} {draft : Draft} {cause : StoreError}
      (hcaller : Notes.callerOf settings r = .ok owner)
      (hbody : readBody Draft.reader limit r = .ok draft) (hcheck : draft.check = .ok ())
      (hcall : (Access.insert (draft.note occasion.noteId owner occasion.now)).error? c
        = some cause) :
      Fails settings occasion limit r c .create (.store cause)
  | patch {owner : Owner} {id : NoteId} {cause : BodyError}
      (hcaller : Notes.callerOf settings r = .ok owner) (hid : namedNote? r.path = some id)
      (hbody : readBody Patch.reader limit r = .error cause) :
      Fails settings occasion limit r c .update (.body cause)
  | patchText {owner : Owner} {id : NoteId} {patch : Patch} {cause : TextTooLong}
      (hcaller : Notes.callerOf settings r = .ok owner) (hid : namedNote? r.path = some id)
      (hbody : readBody Patch.reader limit r = .ok patch) (hcheck : patch.check = .error cause) :
      Fails settings occasion limit r c .update (.text cause)
  | patchEmpty {owner : Owner} {id : NoteId} {patch : Patch}
      (hcaller : Notes.callerOf settings r = .ok owner) (hid : namedNote? r.path = some id)
      (hbody : readBody Patch.reader limit r = .ok patch) (hcheck : patch.check = .ok ())
      (hempty : patch.isEmpty = true) : Fails settings occasion limit r c .update .emptyPatch
  | updateFailed {owner : Owner} {id : NoteId} {patch : Patch} {cause : StoreError}
      (hcaller : Notes.callerOf settings r = .ok owner) (hid : namedNote? r.path = some id)
      (hbody : readBody Patch.reader limit r = .ok patch) (hcheck : patch.check = .ok ())
      (hset : patch.isEmpty = false)
      (hcall : (Access.update owner id patch occasion.now).error? c = some cause) :
      Fails settings occasion limit r c .update (.store cause)
  | updateAbsent {owner : Owner} {id : NoteId} {patch : Patch}
      (hcaller : Notes.callerOf settings r = .ok owner) (hid : namedNote? r.path = some id)
      (hbody : readBody Patch.reader limit r = .ok patch) (hcheck : patch.check = .ok ())
      (hset : patch.isEmpty = false)
      (hcall : (Access.update owner id patch occasion.now c).1 = .ok none) :
      Fails settings occasion limit r c .update (.absent id)
  | deleteFailed {owner : Owner} {id : NoteId} {cause : StoreError}
      (hcaller : Notes.callerOf settings r = .ok owner) (hid : namedNote? r.path = some id)
      (hcall : (Access.delete owner id).error? c = some cause) :
      Fails settings occasion limit r c .delete (.store cause)
  | deleteAbsent {owner : Owner} {id : NoteId}
      (hcaller : Notes.callerOf settings r = .ok owner) (hid : namedNote? r.path = some id)
      (hcall : (Access.delete owner id c).1 = .ok false) :
      Fails settings occasion limit r c .delete (.absent id)

variable {settings : Settings} {occasion : Occasion} {limit : Nat} {r : Request}
  {op : ApiOperation} {c : Connection} {e : ApiError}

/-! ## Errors of endpoints -/

/-- `ApiError.ofList` is `told` of the failure `listing` for `list`. -/
theorem ofList_eq (cause : ListError) :
    ApiError.ofList cause = (Failure.listing cause).told .list := by
  cases cause <;> rfl

/-- `ApiError.ofStore` is `told` of the failure `store` for the operation that the call of the store
serves. -/
theorem ofStore_eq {cause : StoreError} (hop : cause.operation.served = op) :
    ApiError.ofStore cause = (Failure.store cause).told op := by
  obtain ⟨operation, failure, message⟩ := cause
  subst hop
  cases failure <;> rfl

/-- `ApiError.ofStore` with another operation by `during` is `told` of the failure `store` for that
operation. -/
theorem ofStore_during_eq (cause : StoreError) :
    (ApiError.ofStore cause).during op = (Failure.store cause).told op := by
  obtain ⟨operation, failure, message⟩ := cause
  cases failure <;> rfl

/-- `Access.perform` of a call comes to errors with the operation of the call only, if its answer
does. -/
theorem Access.operation_of_perform {α : Type} (call : StoreCall) {answer : Access StoreError α}
    {cause : StoreError}
    (hanswer : ∀ c cause, answer.error? c = some cause → cause.operation = call.operation)
    (h : (perform call answer).error? c = some cause) : cause.operation = call.operation := by
  simp only [perform, error?, get_bind_apply, set_bind_apply] at h
  cases hfault : c.nextFault call.operation with
  | none => exact hanswer _ cause (by simpa only [hfault, error?] using h)
  | some fault =>
    simp only [hfault] at h
    cases fault with
    | fail failure message => cases h; rfl
    | cancelBefore | cancelAfter => exact hanswer _ cause h
    | hang | crash => cases h

/-- An error of `Access.insert` names `insert`. -/
theorem Access.operation_of_insert {note : Note} {cause : StoreError}
    (h : (Access.insert note).error? c = some cause) : cause.operation = .insert := by
  refine operation_of_perform .insert (fun c' cause hanswer => ?_) h
  simp only [error?, get_bind_apply] at hanswer
  cases hinsert : c'.store.insert note with
  | none =>
    simp only [hinsert] at hanswer
    cases hanswer
    rfl
  | some store =>
    simp only [hinsert] at hanswer
    cases hanswer

/-- An error of `Access.update` names `update`. -/
theorem Access.operation_of_update {owner : Owner} {id : NoteId} {patch : Patch} {now : Instant}
    {cause : StoreError} (h : (Access.update owner id patch now).error? c = some cause) :
    cause.operation = .update :=
  operation_of_perform .update (fun _ _ hanswer => by cases hanswer) h

/-- An error of `Access.delete` names `delete`. -/
theorem Access.operation_of_delete {owner : Owner} {id : NoteId} {cause : StoreError}
    (h : (Access.delete owner id).error? c = some cause) : cause.operation = .delete :=
  operation_of_perform .delete (fun _ _ hanswer => by cases hanswer) h

namespace Notes

section
variable {β : Type}

/-- `error?` of work behind `callerOf`: the failure `nobody` for the header of the owner, or the
error of what follows for the owner that is found. -/
theorem error?_callerOf_bind {k : Owner → Work β} (op : ApiOperation) :
    (orRefuse id (callerOf settings r) >>= k).error? c = some (.error e)
      ↔ (∃ cause, callerOf settings r = .error cause
          ∧ (Failure.nobody settings.auth.ownerHeader).told op = e)
        ∨ ∃ owner, callerOf settings r = .ok owner ∧ (k owner).error? c = some (.error e) := by
  have htold (cause : ApiError) (h : callerOf settings r = .error cause) :
      cause = (Failure.nobody settings.auth.ownerHeader).told op := by
    delta callerOf at h
    dsimp only at h
    split at h
    · cases h; rfl
    · split at h
      · cases h; rfl
      · cases h
  rw [error?_orRefuse_bind]
  refine or_congr_left ⟨?_, ?_⟩
  · rintro ⟨cause, hcaller, rfl⟩
    exact ⟨cause, hcaller, (htold cause hcaller).symm⟩
  · rintro ⟨cause, hcaller, rfl⟩
    exact ⟨cause, hcaller, htold cause hcaller⟩

/-- `error?` of work behind `pathText` and `noteNamed`: the failure `noteId` with the reason of
`NoteId.ofHex`, or the error of what follows for the note that `namedNote?` finds. -/
theorem error?_noteNamed_bind {segment : String} {k : NoteId → Work β}
    (hpath : Resource.ofPath? r.path = some (.note segment)) :
    (pathText segment >>= fun raw => orRefuse id (noteNamed raw op) >>= k).error? c
        = some (.error e)
      ↔ (∃ raw cause, ofUtf8? (Percent.decode (utf8 segment)) = some raw
          ∧ NoteId.ofHex raw = .error cause ∧ (Failure.noteId cause).told op = e)
        ∨ ∃ id, namedNote? r.path = some id ∧ (k id).error? c = some (.error e) := by
  simp only [error?_pathText_bind, error?_orRefuse_bind, namedNote?, hpath]
  cases ofUtf8? (Percent.decode (utf8 segment)) with
  | none => simp
  | some raw =>
    cases hid : NoteId.ofHex raw with
    | ok id =>
      have hnamed : noteNamed raw op = .ok id := by rw [noteNamed, hid]
      simp [hnamed, hid, Except.toOption]
    | error cause =>
      have hnamed : noteNamed raw op = .error ((Failure.noteId cause).told op) := by
        rw [noteNamed, hid]
        rfl
      simp [hnamed, hid, Except.toOption]

end

/-! ## One row of checks for each endpoint -/

/-- `Notes.list` comes to an error exactly when the request for `list` `Fails`, with `told` of the
failure. -/
theorem error?_list (hpath : Resource.ofPath? r.path = some .notes) :
    (list settings r).error? c = some (.error e)
      ↔ ∃ f, Fails settings occasion limit r c .list f ∧ f.told .list = e := by
  -- The check of the caller is rewritten first, since it is an `orRefuse` like those behind it.
  simp only [list_eq, error?_callerOf_bind .list]
  simp only [error?_orRefuse_bind, error?_bind_pure, error?_page]
  constructor
  · rintro (⟨cause, hcaller, rfl⟩ | ⟨owner, hcaller, ⟨cause, hquery, rfl⟩ | ⟨p, hquery,
      ⟨cause, hvalid, rfl⟩ | ⟨request, hvalid, ⟨cause, hfetch, rfl⟩ | ⟨_, hfetch, rfl⟩⟩⟩⟩)
    · exact ⟨_, .nobody hcaller, rfl⟩
    · exact ⟨_, .query hcaller hquery, rfl⟩
    · exact ⟨_, .parameters hcaller hquery hvalid, (ofList_eq cause).symm⟩
    · exact ⟨_, .listing hcaller hquery hvalid hfetch, (ofList_eq cause).symm⟩
    · exact ⟨_, .overdue hcaller hquery hvalid hfetch, rfl⟩
  · rintro ⟨f, hfails, rfl⟩
    cases hfails with
    | nobody hcaller => exact .inl ⟨_, hcaller, rfl⟩
    | query hcaller hquery => exact .inr ⟨_, hcaller, .inl ⟨_, hquery, rfl⟩⟩
    | parameters hcaller hquery hvalid =>
      exact .inr ⟨_, hcaller, .inr ⟨_, hquery, .inl ⟨_, hvalid, ofList_eq _⟩⟩⟩
    | listing hcaller hquery hvalid hfetch =>
      exact .inr ⟨_, hcaller, .inr ⟨_, hquery, .inr ⟨_, hvalid, .inl ⟨_, hfetch, ofList_eq _⟩⟩⟩⟩
    | overdue hcaller hquery hvalid hfetch =>
      exact .inr ⟨_, hcaller, .inr ⟨_, hquery, .inr ⟨_, hvalid, .inr ⟨_, hfetch, rfl⟩⟩⟩⟩
    | noteId hcaller hnote => cases hpath.symm.trans hnote

/-- `Notes.create` comes to an error exactly when the request for `create` `Fails`, with `told` of
the failure. -/
theorem error?_create (hpath : Resource.ofPath? r.path = some .notes) :
    (create settings occasion limit r).error? c = some (.error e)
      ↔ ∃ f, Fails settings occasion limit r c .create f ∧ f.told .create = e := by
  simp only [create, error?_callerOf_bind .create]
  simp only [error?_orRefuse_bind, error?_call_bind, error?_pure]
  constructor
  · rintro (⟨cause, hcaller, rfl⟩ | ⟨owner, hcaller, ⟨cause, hbody, rfl⟩ | ⟨draft, hbody,
      ⟨cause, hcheck, rfl⟩ | ⟨⟨⟩, hcheck, ⟨cause, hcall, rfl⟩ | ⟨_, _, hnone⟩⟩⟩⟩)
    · exact ⟨_, .nobody hcaller, rfl⟩
    · exact ⟨_, .draft hcaller hbody, rfl⟩
    · exact ⟨_, .draftText hcaller hbody hcheck, rfl⟩
    · exact ⟨_, .insertFailed hcaller hbody hcheck hcall,
        (ofStore_eq (by rw [operation_of_insert hcall]; rfl)).symm⟩
    · cases hnone
  · rintro ⟨f, hfails, rfl⟩
    cases hfails with
    | nobody hcaller => exact .inl ⟨_, hcaller, rfl⟩
    | draft hcaller hbody => exact .inr ⟨_, hcaller, .inl ⟨_, hbody, rfl⟩⟩
    | draftText hcaller hbody hcheck =>
      exact .inr ⟨_, hcaller, .inr ⟨_, hbody, .inl ⟨_, hcheck, rfl⟩⟩⟩
    | insertFailed hcaller hbody hcheck hcall =>
      exact .inr ⟨_, hcaller, .inr ⟨_, hbody, .inr ⟨_, hcheck, .inl ⟨_, hcall,
        ofStore_eq (by rw [operation_of_insert hcall]; rfl)⟩⟩⟩⟩
    | noteId hcaller hnote => cases hpath.symm.trans hnote

section
variable {segment : String} (hpath : Resource.ofPath? r.path = some (.note segment))
include hpath

/-- `Notes.get` comes to an error exactly when the request for `get` `Fails`, with `told` of the
failure. -/
theorem error?_get : (get settings segment r).error? c = some (.error e)
    ↔ ∃ f, Fails settings occasion limit r c .get f ∧ f.told .get = e := by
  simp only [get, error?_callerOf_bind .get, error?_noteNamed_bind hpath, error?_call_bind]
  constructor
  · rintro (⟨cause, hcaller, rfl⟩ | ⟨owner, hcaller, ⟨raw, cause, hraw, hid, rfl⟩ | ⟨id, hid,
      ⟨cause, hcall, rfl⟩ | ⟨found, hcall, hfound⟩⟩⟩)
    · exact ⟨_, .nobody hcaller, rfl⟩
    · exact ⟨_, .noteId hcaller hpath hraw hid, rfl⟩
    · exact ⟨_, .findFailed hcaller hid hcall, (ofStore_during_eq cause).symm⟩
    · -- Work that answers with a note comes to no error.
      cases found with
      | none =>
        cases hfound
        exact ⟨_, .findAbsent hcaller hid hcall, rfl⟩
      | some note => cases hfound
  · rintro ⟨f, hfails, rfl⟩
    cases hfails with
    | nobody hcaller => exact .inl ⟨_, hcaller, rfl⟩
    | noteId hcaller hnote hraw hid =>
      cases hpath.symm.trans hnote
      exact .inr ⟨_, hcaller, .inl ⟨_, _, hraw, hid, rfl⟩⟩
    | findFailed hcaller hid hcall =>
      exact .inr ⟨_, hcaller, .inr ⟨_, hid, .inl ⟨_, hcall, ofStore_during_eq _⟩⟩⟩
    | findAbsent hcaller hid hcall =>
      exact .inr ⟨_, hcaller, .inr ⟨_, hid, .inr ⟨_, hcall, rfl⟩⟩⟩

/-- `Notes.update` comes to an error exactly when the request for `update` `Fails`, with `told` of
the failure. -/
theorem error?_update : (update settings occasion limit segment r).error? c = some (.error e)
    ↔ ∃ f, Fails settings occasion limit r c .update f ∧ f.told .update = e := by
  simp only [update, error?_callerOf_bind .update, error?_noteNamed_bind hpath]
  simp only [error?_orRefuse_bind]
  constructor
  · rintro (⟨cause, hcaller, rfl⟩ | ⟨owner, hcaller, ⟨raw, cause, hraw, hid, rfl⟩ | ⟨id, hid,
      ⟨cause, hbody, rfl⟩ | ⟨patch, hbody, ⟨cause, hcheck, rfl⟩ | ⟨⟨⟩, hcheck, hrest⟩⟩⟩⟩)
    · exact ⟨_, .nobody hcaller, rfl⟩
    · exact ⟨_, .noteId hcaller hpath hraw hid, rfl⟩
    · exact ⟨_, .patch hcaller hid hbody, rfl⟩
    · exact ⟨_, .patchText hcaller hid hbody hcheck, rfl⟩
    · cases hempty : patch.isEmpty with
      | true =>
        rw [hempty, if_pos rfl] at hrest
        cases hrest
        exact ⟨_, .patchEmpty hcaller hid hbody hcheck hempty, rfl⟩
      | false =>
        rw [hempty, if_neg Bool.false_ne_true, error?_call_bind] at hrest
        rcases hrest with ⟨cause, hcall, rfl⟩ | ⟨_ | note, hcall, hfound⟩
        · exact ⟨_, .updateFailed hcaller hid hbody hcheck hempty hcall,
            (ofStore_eq (by rw [operation_of_update hcall]; rfl)).symm⟩
        · cases hfound
          exact ⟨_, .updateAbsent hcaller hid hbody hcheck hempty hcall, rfl⟩
        · cases hfound
  · rintro ⟨f, hfails, rfl⟩
    cases hfails with
    | nobody hcaller => exact .inl ⟨_, hcaller, rfl⟩
    | noteId hcaller hnote hraw hid =>
      cases hpath.symm.trans hnote
      exact .inr ⟨_, hcaller, .inl ⟨_, _, hraw, hid, rfl⟩⟩
    | patch hcaller hid hbody => exact .inr ⟨_, hcaller, .inr ⟨_, hid, .inl ⟨_, hbody, rfl⟩⟩⟩
    | patchText hcaller hid hbody hcheck =>
      exact .inr ⟨_, hcaller, .inr ⟨_, hid, .inr ⟨_, hbody, .inl ⟨_, hcheck, rfl⟩⟩⟩⟩
    | patchEmpty hcaller hid hbody hcheck hempty =>
      refine .inr ⟨_, hcaller, .inr ⟨_, hid, .inr ⟨_, hbody, .inr ⟨_, hcheck, ?_⟩⟩⟩⟩
      rw [hempty, if_pos rfl]
      rfl
    | updateFailed hcaller hid hbody hcheck hset hcall =>
      refine .inr ⟨_, hcaller, .inr ⟨_, hid, .inr ⟨_, hbody, .inr ⟨_, hcheck, ?_⟩⟩⟩⟩
      rw [hset, if_neg Bool.false_ne_true, error?_call_bind]
      exact .inl ⟨_, hcall, ofStore_eq (by rw [operation_of_update hcall]; rfl)⟩
    | updateAbsent hcaller hid hbody hcheck hset hcall =>
      refine .inr ⟨_, hcaller, .inr ⟨_, hid, .inr ⟨_, hbody, .inr ⟨_, hcheck, ?_⟩⟩⟩⟩
      rw [hset, if_neg Bool.false_ne_true, error?_call_bind]
      exact .inr ⟨_, hcall, rfl⟩

/-- `Notes.delete` comes to an error exactly when the request for `delete` `Fails`, with `told` of
the failure. -/
theorem error?_delete : (delete settings segment r).error? c = some (.error e)
    ↔ ∃ f, Fails settings occasion limit r c .delete f ∧ f.told .delete = e := by
  simp only [delete, error?_callerOf_bind .delete, error?_noteNamed_bind hpath, error?_call_bind]
  constructor
  · rintro (⟨cause, hcaller, rfl⟩ | ⟨owner, hcaller, ⟨raw, cause, hraw, hid, rfl⟩ | ⟨id, hid,
      ⟨cause, hcall, rfl⟩ | ⟨found, hcall, hfound⟩⟩⟩)
    · exact ⟨_, .nobody hcaller, rfl⟩
    · exact ⟨_, .noteId hcaller hpath hraw hid, rfl⟩
    · exact ⟨_, .deleteFailed hcaller hid hcall,
        (ofStore_eq (by rw [operation_of_delete hcall]; rfl)).symm⟩
    · cases found with
      | false =>
        cases hfound
        exact ⟨_, .deleteAbsent hcaller hid hcall, rfl⟩
      | true => cases hfound
  · rintro ⟨f, hfails, rfl⟩
    cases hfails with
    | nobody hcaller => exact .inl ⟨_, hcaller, rfl⟩
    | noteId hcaller hnote hraw hid =>
      cases hpath.symm.trans hnote
      exact .inr ⟨_, hcaller, .inl ⟨_, _, hraw, hid, rfl⟩⟩
    | deleteFailed hcaller hid hcall =>
      exact .inr ⟨_, hcaller, .inr ⟨_, hid, .inl ⟨_, hcall,
        ofStore_eq (by rw [operation_of_delete hcall]; rfl)⟩⟩⟩
    | deleteAbsent hcaller hid hcall =>
      exact .inr ⟨_, hcaller, .inr ⟨_, hid, .inr ⟨_, hcall, rfl⟩⟩⟩

end

/-- `Notes.work` of an operation comes to an error exactly when the request for it `Fails`, with
`Failure.told` of the failure. -/
theorem error?_work {resource : Resource} (hpath : Resource.ofPath? r.path = some resource)
    (hop : resource.operation? r.method = some op) :
    (work settings occasion limit resource.segment r op).error? c = some (.error e)
      ↔ ∃ f, Fails settings occasion limit r c op f ∧ f.told op = e := by
  rcases Resource.operation?_eq_some hop with
    ⟨rfl, -, rfl⟩ | ⟨rfl, -, rfl⟩ | ⟨segment, rfl, ⟨-, rfl⟩ | ⟨-, rfl⟩ | ⟨-, rfl⟩⟩
  · exact error?_list hpath
  · exact error?_create hpath
  · exact error?_get hpath
  · exact error?_update hpath
  · exact error?_delete hpath

end Notes

end NotePager

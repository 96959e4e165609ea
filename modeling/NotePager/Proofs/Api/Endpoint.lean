import NotePager.Proofs.Api.Effect

/-!
# Checks and errors of endpoints

The work of an endpoint is a row of checks with a call of the store behind them. A check that passes
leaves the rest of the work (`Notes.orRefuse_ok_bind`, `Notes.noteNamed_bind`). `Access.error?` is
the error that work comes to; for an endpoint it is that of the first check that fails
(`Notes.error?_orRefuse_bind`), or else what the call of the store makes of the rest
(`Notes.error?_call_bind`).
-/

namespace NotePager

open Access Encoding Http Text

variable {settings : Settings} {r : Request} {op : ApiOperation} {c : Connection}

/-- If `called?` finds an operation and `namedNote?` a note, the path is that of a `Resource.note`,
and the operation is asked of this resource. -/
theorem exists_segment_of_named {id : NoteId} (hop : called? r = some op)
    (hid : namedNote? r.path = some id) : ∃ segment, Resource.ofPath? r.path = some (.note segment)
      ∧ (Resource.note segment).operation? r.method = some op := by
  obtain ⟨resource, hpath, hop⟩ := Option.bind_eq_some_iff.1 hop
  cases resource with
  | note segment => exact ⟨segment, hpath, hop⟩
  | notes | health | ready => simp [namedNote?, hpath] at hid

/-! ## Checks -/

namespace Notes

variable {α β : Type}

/-- Work behind an `orRefuse` that passes goes on with the value. -/
theorem orRefuse_ok_bind {f : ε → ApiError} {a : α} {k : α → Work β} :
    orRefuse f (.ok a) >>= k = k a := rfl

/-- Work behind an `orRefuse` that fails is over. -/
theorem orRefuse_error_bind {f : ε → ApiError} {e : ε} {k : α → Work β} :
    orRefuse f (.error e) >>= k = refuse (f e) := rfl

/-- What follows an `orRefuse` matters only for the value that the check lets through. -/
theorem orRefuse_bind_congr {f : ε → ApiError} {x : Except ε α} {k l : α → Work β}
    (h : ∀ a, x = .ok a → k a = l a) : (orRefuse f x >>= k) = (orRefuse f x >>= l) := by
  cases x with
  | error e => rfl
  | ok a => exact h a rfl

/-- Behind `pathText` and `noteNamed`, work goes on with the note that `namedNote?` finds in the
path. -/
theorem noteNamed_bind {segment : String} {id : NoteId} {f : ApiError → ApiError}
    {k : NoteId → Work β} (hpath : Resource.ofPath? r.path = some (.note segment))
    (hid : namedNote? r.path = some id) :
    (pathText segment >>= fun raw => orRefuse f (noteNamed raw op) >>= k) = k id := by
  simp only [namedNote?, hpath, Option.bind_eq_some_iff] at hid
  obtain ⟨raw, hraw, hid⟩ := hid
  have hnamed : noteNamed raw op = .ok id := by
    rw [noteNamed]
    cases hhex : NoteId.ofHex raw with
    | error e => simp [hhex, Except.toOption] at hid
    | ok id' => simpa [hhex, Except.toOption] using hid
  simp only [pathText, hraw, pure_bind, hnamed, orRefuse_ok_bind]

end Notes

/-! ## Errors of work -/

/-- The error that halted work ends with, if any. A `waiting` work ends with the one for
cancellation, if it listens to that. -/
def Halt.error? : Halt ε → Option ε
  | failed e => some e
  | waiting onCancel => onCancel
  | crashed => none

namespace Access

variable {ε ε' α β : Type} {work : Access ε α}

/-- The error that work comes to when it is begun on a connection. -/
def error? (work : Access ε α) (c : Connection) : Option ε :=
  match (work c).1 with
  | .ok _ => none
  | .error halt => halt.error?

/-- A value is no error. -/
@[simp] theorem error?_pure (a : α) : (pure a : Access ε α).error? c = none := rfl

/-- `error?` of work in two parts: the error of the first part, or that of the second from where the
first has led. -/
theorem error?_bind {k : α → Access ε β} {e : ε} : (work >>= k).error? c = some e
    ↔ work.error? c = some e
      ∨ ∃ a, (work c).1 = .ok a ∧ (k a).error? (work c).2 = some e := by
  rcases hwork : work c with ⟨halt | a, c'⟩
  · simp [error?, bind_apply_error hwork, hwork]
  · simp [error?, bind_apply_ok hwork, hwork]

/-- Passing on a value by `pure` adds no error. -/
theorem error?_bind_pure {f : α → β} :
    (work >>= fun a => Pure.pure (f a)).error? c = work.error? c := by
  rcases hwork : work c with ⟨halt | a, c'⟩
  · simp [error?, bind_apply_error hwork, hwork]
  · rw [error?, bind_apply_ok hwork, error?, hwork]
    rfl

/-- `error?` of work that begins with `fail` is the error it fails with. -/
@[simp] theorem error?_fail_bind {k : α → Access ε β} (e : ε) :
    ((fail e : Access ε α) >>= k).error? c = some e := rfl

/-- `Access.mapError` puts the error of `error?` into other words. -/
theorem error?_mapError (f : ε → ε') : (work.mapError f).error? c = (work.error? c).map f := by
  rcases hwork : work c with ⟨(e | w | _) | a, c'⟩ <;>
    simp [error?, Access.mapError, hwork, Halt.error?]

end Access

namespace Notes

variable {ε α β : Type} {e : ApiError}

/-- `error?` of work behind an `orRefuse`: the error of the check that fails, or that of what
follows for the value that it lets through. -/
theorem error?_orRefuse_bind {f : ε → ApiError} {x : Except ε α} {k : α → Work β} :
    (orRefuse f x >>= k).error? c = some (.error e)
      ↔ (∃ cause, x = .error cause ∧ f cause = e)
        ∨ ∃ a, x = .ok a ∧ (k a).error? c = some (.error e) := by
  cases x with
  | ok a => simp [orRefuse]
  | error cause => simp [orRefuse, refuse]

/-- `error?` of work behind `pathText`, which refuses with `badPath` and never with an `ApiError`:
the error of what follows for the text that the segment is read as. -/
theorem error?_pathText_bind {segment : String} {k : String → Work β} :
    (pathText segment >>= k).error? c = some (.error e)
      ↔ ∃ raw, ofUtf8? (Percent.decode (utf8 segment)) = some raw
        ∧ (k raw).error? c = some (.error e) := by
  rw [pathText]
  cases ofUtf8? (Percent.decode (utf8 segment)) with
  | some raw => simp
  | none => simp

/-- `error?` of work behind a `call` of the store: the error of the call, put into words by `f`, or
that of what follows. -/
theorem error?_call_bind {f : StoreError → ApiError} {work : Access StoreError α}
    {k : α → Work β} : (call f work >>= k).error? c = some (.error e)
      ↔ (∃ cause, work.error? c = some cause ∧ f cause = e)
        ∨ ∃ a, (work c).1 = .ok a ∧ (k a).error? (work c).2 = some (.error e) := by
  simp only [error?_bind, call, error?_mapError, mapError_eq_ok, mapError_snd,
    Option.map_eq_some_iff, Refusal.error.injEq]

/-- The error of a listing whose time is over. -/
def overdue (request : ListRequest) : ListError :=
  .store request.start.mode ⟨.find, .timeout, "list deadline elapsed"⟩

/-- The page that a request for a listing asks for. -/
def page (owner : Owner) (request : ListRequest) : Work Page := fun c =>
  match (Listing.fetch owner request).settle c with
  | (.ok page, c) => (.ok page, c)
  | (.error (.failed e), c) => (.error (.failed (.error (.ofList e))), c)
  | (.error (.waiting _), c) => (.error (.waiting (some (.error (.ofList (overdue request))))), c)
  | (.error .crashed, c) => (.error .crashed, c)

/-- `Notes.list` as a row of checks, with fetching as one step (`page`) and giving up inside it. -/
theorem list_eq : list settings r = (do
    let owner ← orRefuse id (callerOf settings r)
    let parameters ← orRefuse badQuery (Parameters.ofPairs (queryPairs (utf8 r.query)))
    let request ← orRefuse ApiError.ofList parameters.validate
    let page ← page owner request
    return .json 200 page.json) := rfl

/-- `page` comes to an error when `Listing.fetch` fails, by `ApiError.ofList`, and when it waits, as
`overdue`. -/
theorem error?_page {owner : Owner} {request : ListRequest} :
    (page owner request).error? c = some (.error e)
      ↔ (∃ cause, ((Listing.fetch owner request).settle c).1 = .error (.failed cause)
          ∧ ApiError.ofList cause = e)
        ∨ ∃ onCancel, ((Listing.fetch owner request).settle c).1 = .error (.waiting onCancel)
          ∧ ApiError.ofList (overdue request) = e := by
  rw [error?, page]
  rcases (Listing.fetch owner request).settle c with ⟨(cause | w | _) | page, c'⟩ <;>
    simp [Halt.error?]

end Notes

end NotePager

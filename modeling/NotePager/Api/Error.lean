import NotePager.Http.Message
import NotePager.Note.Draft
import NotePager.Paging.Error

/-!
# Errors of the interface

A call that fails is answered with a kind of error, which settles the status and the code, a
message, and the operation that was called. What a store says about its own failures stays inside:
only that a note was not found is passed on.
-/

namespace NotePager

/-- What can be asked of the interface. -/
inductive ApiOperation where
  | list
  | get
  | create
  | update
  | delete
  deriving DecidableEq, Repr

/-- The name of an operation. -/
def ApiOperation.name : ApiOperation → String
  | list => "list"
  | get => "get"
  | create => "create"
  | update => "update"
  | delete => "delete"

/-- The kinds of error. -/
inductive ApiErrorKind where
  | invalidCursor
  | invalidLimit
  | badRequest
  | unauthorized
  | notFound
  | offsetBeyondTotal
  | validationFailed
  | internalError
  deriving DecidableEq, Repr

namespace ApiErrorKind

/-- The name of a kind. -/
def name : ApiErrorKind → String
  | invalidCursor => "invalid_cursor"
  | invalidLimit => "invalid_limit"
  | badRequest => "bad_request"
  | unauthorized => "unauthorized"
  | notFound => "not_found"
  | offsetBeyondTotal => "offset_beyond_total"
  | validationFailed => "validation_failed"
  | internalError => "internal_error"

/-- The code that clients can go by: the name in capitals. -/
def code (k : ApiErrorKind) : String := String.ofList (k.name.toList.map Char.toUpper)

/-- The status of the response. -/
def status : ApiErrorKind → Nat
  | invalidCursor | invalidLimit | badRequest => 400
  | unauthorized => 401
  | notFound => 404
  | offsetBeyondTotal => 416
  | validationFailed => 422
  | internalError => 500

end ApiErrorKind

/-- A failed call of the interface. -/
structure ApiError where
  operation : ApiOperation
  kind : ApiErrorKind
  message : String
  deriving DecidableEq, Repr

/-- The message of every failure inside. -/
def internalMessage : String := "An internal error occurred"

/-- The operation of the interface that an operation of the store serves. -/
def StoreOperation.served : StoreOperation → ApiOperation
  | find | count => .list
  | findOne => .get
  | insert => .create
  | update => .update
  | delete => .delete

namespace ApiError

/-- A note is not there. -/
def notFound (message : String) : ApiError := ⟨.get, .notFound, message⟩

/-- A text is over its limit. -/
def validationFailed (message : String) : ApiError := ⟨.create, .validationFailed, message⟩

/-- The request makes no sense. -/
def badRequest (message : String) : ApiError := ⟨.list, .badRequest, message⟩

/-- The request has no owner. -/
def unauthorized (message : String) : ApiError := ⟨.get, .unauthorized, message⟩

/-- The same error of another operation. -/
def during (e : ApiError) (operation : ApiOperation) : ApiError := { e with operation }

/-- The fault is not the caller's. -/
def isServerError (e : ApiError) : Bool := 500 ≤ e.kind.status

/-- The error in words, with its context. -/
def describe (e : ApiError) : String :=
  "API " ++ e.kind.name ++ " error during " ++ e.operation.name ++ ": " ++ e.message

/-- The error of a failed store call. -/
def ofStore (e : StoreError) : ApiError :=
  match e.failure with
  | .notFound => ⟨e.operation.served, .notFound, e.message⟩
  | _ => ⟨e.operation.served, .internalError, internalMessage⟩

/-- The error of a failed listing. -/
def ofList (e : ListError) : ApiError :=
  match e with
  | .invalidCursor _ => ⟨.list, .invalidCursor, e.message⟩
  | .invalidLimit _ => ⟨.list, .invalidLimit, e.message⟩
  | .badRequest _ => ⟨.list, .badRequest, e.message⟩
  | .offsetBeyondTotal .. => ⟨.list, .offsetBeyondTotal, e.message⟩
  | .notFound _ => ⟨.list, .notFound, e.message⟩
  | .store .. => ⟨.list, .internalError, internalMessage⟩

/-- The error of a text over its limit. -/
def ofTextTooLong (e : TextTooLong) : ApiError := validationFailed e.message

/-- The body of the response. -/
def json (e : ApiError) : Json := .object [
  ("error", .text e.message),
  ("code", .text e.kind.code),
  ("status", .number e.kind.status),
  ("operation", .text e.operation.name)]

/-- The response. -/
def response (e : ApiError) : Http.Response := .json e.kind.status e.json

end ApiError

end NotePager

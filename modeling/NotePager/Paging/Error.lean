import NotePager.Paging.Cursor
import NotePager.Store.Error

/-!
# Errors of listings

Why a listing cannot be given. Apart from failures of the store, each is found in the request alone
or in a note that is not there.
-/

namespace NotePager

/-- The three ways to ask for a page. -/
inductive PageMode where
  | cursor
  | offset
  | anchor
  deriving DecidableEq, Repr

/-- The name of a way to ask. -/
def PageMode.name : PageMode → String
  | cursor => "cursor"
  | offset => "offset"
  | anchor => "anchor"

/-- The smallest page. -/
def minLimit : Nat := 1

/-- The largest page. -/
def maxLimit : Nat := 100

/-- The largest offset. -/
def maxOffset : Nat := 50000

/-- The largest number of notes on each side of an anchor. -/
def maxSpan : Nat := 50

/-- The longest search text, in characters. -/
def maxSearchLength : Nat := 256

/-- Why parameters make no request. -/
inductive BadRequest where
  | unknownSort (got : String)
  | unknownOrder (got : String)
  | unknownDirection (got : String)
  | severalPositions
  | spanWithoutAnchor
  | directionWithoutCursor
  | limitWithAnchor
  | offsetOutOfRange (got : Int)
  | spanOutOfRange (got : Int)
  | searchTooLong
  /-- A reason given outside of the validation. -/
  | other (message : String)
  deriving DecidableEq, Repr

/-- The reason in words. -/
def BadRequest.message : BadRequest → String
  | unknownSort got => "sort must be one of created_at, updated_at, title; got '" ++ got ++ "'"
  | unknownOrder got => "order must be asc or desc; got '" ++ got ++ "'"
  | unknownDirection got => "direction must be next or prev; got '" ++ got ++ "'"
  | severalPositions => "cursor, offset and anchor are mutually exclusive"
  | spanWithoutAnchor => "span requires anchor"
  | directionWithoutCursor => "direction requires cursor"
  | limitWithAnchor => "limit cannot be combined with anchor; use span"
  | offsetOutOfRange got =>
    "offset must be between 0 and " ++ toString maxOffset ++ ", got " ++ toString got
  | spanOutOfRange got =>
    "span must be between 1 and " ++ toString maxSpan ++ ", got " ++ toString got
  | searchTooLong => "q must be at most " ++ toString maxSearchLength ++ " characters"
  | other message => message

/-- What is not there. -/
inductive Missing where
  /-- The note that a cursor marks. -/
  | cursorNote (id : NoteId)
  /-- The note around which a window is asked for. -/
  | anchorNote (id : NoteId)
  /-- Something named outside of the listing. -/
  | other (message : String)
  deriving DecidableEq, Repr

/-- What is not there, in words. -/
def Missing.message : Missing → String
  | cursorNote id => "cursor note " ++ id.toHex ++ " not found"
  | anchorNote id => "anchor note " ++ id.toHex ++ " not found"
  | other message => message

/-- Why a listing cannot be given. -/
inductive ListError where
  | invalidCursor (cause : CursorError)
  | invalidLimit (got : Int)
  | badRequest (reason : BadRequest)
  | offsetBeyondTotal (offset total : Nat)
  | notFound (what : Missing)
  | store (mode : PageMode) (cause : StoreError)
  deriving DecidableEq, Repr

/-- The error in words. -/
def ListError.message : ListError → String
  | invalidCursor cause => "invalid cursor: " ++ cause.message
  | invalidLimit got =>
    "limit must be between " ++ toString minLimit ++ " and " ++ toString maxLimit
      ++ ", got " ++ toString got
  | badRequest reason => reason.message
  | offsetBeyondTotal offset total =>
    "offset " ++ toString offset ++ " is beyond the " ++ toString total ++ " matching notes"
  | notFound what => what.message
  | store mode cause => mode.name ++ " listing failed: " ++ cause.describe

end NotePager

import NotePager.Http.MediaType
import NotePager.Http.Message
import NotePager.Json.Reader

/-!
# Request bodies

A body has to be announced as JSON, must not be too long, and has to hold a value of the kind that
is wanted. The error is that of the first of these checks that fails.
-/

namespace NotePager

open Http

/-- Why a body is not taken. -/
inductive BodyError where
  /-- It is not announced as JSON. -/
  | unannounced
  /-- It is too long. -/
  | tooLong
  /-- It is not JSON. -/
  | notJson
  /-- It is JSON of another kind. -/
  | otherKind
  deriving DecidableEq, Repr

/-- The error in words. -/
def BodyError.message : BodyError → String
  | unannounced => "Expected request with `Content-Type: application/json`"
  | tooLong => "Failed to buffer the request body: length limit exceeded"
  | notJson => "Failed to parse the request body as JSON"
  | otherKind => "Failed to deserialize the JSON body into the target type"

/-- The longest body that is read at all, in bytes. -/
def maxBodyLength : Nat := 2097152

/-- Read a body of at most `limit` bytes. -/
def readBody (read : Json.Reader α) (limit : Nat) (r : Request) : Except BodyError α :=
  if !((r.headers.get? "content-type").bind readable?).any isJsonType then .error .unannounced
  else if min limit maxBodyLength < r.body.length then .error .tooLong
  else match read.run r.body with
    | .ok v => .ok v
    | .error .mismatch => .error .otherKind
    | .error _ => .error .notJson

end NotePager

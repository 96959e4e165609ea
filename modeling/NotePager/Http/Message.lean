import NotePager.Http.Header
import NotePager.Json.Basic

/-!
# Requests and responses
-/

namespace NotePager.Http

open Text

/-- A request. -/
structure Request where
  method : String := "GET"
  /-- The path as it is written, with its percent encoding. -/
  path : String
  /-- What follows the question mark, as it is written. -/
  query : String := ""
  headers : Headers := []
  body : List UInt8 := []

/-- The path and the query of a target. A fragment belongs to neither. -/
def splitTarget (target : String) : String × String :=
  let cs := target.toList.takeWhile (· != '#')
  (String.ofList (cs.takeWhile (· != '?')), String.ofList ((cs.dropWhile (· != '?')).drop 1))

/-- The body of a response. -/
inductive Body where
  | empty
  | text (s : String)
  | json (v : Json)

/-- The length of a body in bytes. -/
def Body.length : Body → Nat
  | empty => 0
  | text s => s.utf8ByteSize
  | json v => v.bytes.length

/-- A response. -/
structure Response where
  status : Nat
  headers : Headers := []
  body : Body := .empty

namespace Response

/-- A response without a body. -/
def empty (status : Nat) : Response := { status }

/-- A response in words. -/
def text (status : Nat) (s : String) : Response :=
  { status, headers := [("content-type", "text/plain; charset=utf-8")], body := .text s }

/-- A response with a value. -/
def json (status : Nat) (v : Json) : Response :=
  { status, headers := [("content-type", "application/json")], body := .json v }

/-- The response without its body. -/
def withoutBody (r : Response) : Response := { r with body := .empty }

/-- Put a header onto the response unless it has it. -/
def withHeader (r : Response) (name value : String) : Response :=
  if (r.headers.get? name).isSome then r else { r with headers := r.headers ++ [(name, value)] }

end Response

end NotePager.Http

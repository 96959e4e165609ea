import NotePager.Api.Health
import NotePager.Api.Notes
import NotePager.Api.Route
import NotePager.Http.ContentCoding
import NotePager.Query.Plain

/-!
# The server

From a request to a response. `answer` is the service alone. `serve` puts around it what happens to
every request: it gets an identifier, which the response carries too; its body is limited; it must
not take too long; and what answers it may be compressed. A request that brings the service down is
answered all the same, but carries no identifier. Last of all, `finish` takes the body away from the
answer to a `HEAD`, so everything else about it is as it is for a `GET`.
-/

namespace NotePager.Server

open Encoding Http

/-- Why the server does not start. -/
inductive StartupError where
  /-- The header for the identifier of a request is none. -/
  | badRequestIdHeader (name : String)
  deriving DecidableEq, Repr

/-- The error in words. -/
def StartupError.message : StartupError → String
  | badRequestIdHeader name =>
    "Internal server error: invalid request id header '" ++ name ++ "': invalid HTTP header name"

/-- The header for the identifier of a request. -/
def requestIdHeader (settings : Settings) : Except StartupError String :=
  let name := settings.middleware.requestIdHeader
  match headerName? name with
  | some header => .ok header
  | none => .error (.badRequestIdHeader name)

variable [PatternEngine]

/-- The endpoint for a resource and a method. Bodies are read up to `limit` bytes. -/
def endpoint (settings : Settings) (occasion : Occasion) (limit : Nat) (resource : Resource)
    (r : Request) : Notes.Work Response :=
  match resource, r.method with
  | .notes, "GET" | .notes, "HEAD" => Notes.list settings r
  | .notes, "POST" => Notes.create settings occasion limit r
  | .note segment, "GET" | .note segment, "HEAD" => Notes.get settings segment r
  | .note segment, "PATCH" => Notes.update settings occasion limit segment r
  | .note segment, "DELETE" => Notes.delete settings segment r
  | .health, "GET" | .health, "HEAD" => return Health.alive settings
  | .ready, "GET" | .ready, "HEAD" => Health.ready settings
  | _, _ => return .empty 405

/-- How a request ends. -/
inductive Outcome where
  | answered (response : Response)
  /-- A call of the store never answers. After the time for listings, a listing is given up with this
  response. -/
  | waiting (overdue : Option Response)
  | crashed

/-- The service alone. -/
def answer (settings : Settings) (occasion : Occasion) (limit : Nat) (r : Request)
    (c : Connection) : Outcome × Connection :=
  match Resource.ofPath? r.path with
  | none => (.answered (.empty 404), c)
  | some resource =>
    match endpoint settings occasion limit resource r c with
    | (.ok response, c) => (.answered response, c)
    | (.error (.failed refusal), c) => (.answered refusal.response, c)
    | (.error (.waiting w), c) => (.waiting (w.map Refusal.response), c)
    | (.error .crashed, c) => (.crashed, c)

/-- The answer to a request that took too long. -/
def timedOut : Response := .empty 408

/-- The answer to a request that is announced to be too long. -/
def tooLarge : Response := .text 413 "length limit exceeded"

/-- The answer to a request that brought the service down. -/
def broken : Response := .text 500 "Service panicked"

/-- Compress a response if the client accepts that and it is worth it. -/
def compress (r : Request) (response : Response) : Response :=
  if acceptedCoding r.headers = .gzip && minCompressed ≤ response.body.length then
    response.withHeader "content-encoding" "gzip"
  else response

/-- The length that the request announces for its body. -/
def announcedLength (r : Request) : Option Nat :=
  ((r.headers.get? "content-length").bind readable?).bind fun value =>
    (readUnsigned UInt64.size value.toList).toOption

/-- The service with a limit on bodies and on time. -/
def limited (settings : Settings) (occasion : Occasion) (r : Request) (c : Connection) :
    Option Response × Connection :=
  let limit := settings.bodyLimitBytes
  match announcedLength r with
  | some n => if limit < n then (some tooLarge, c) else run (min limit n)
  | none => run limit
where
  /-- The service with a limit on time. -/
  run (limit : Nat) : Option Response × Connection :=
    match answer settings occasion limit r c with
    | (.answered response, c) => (some (compress r response), c)
    | (.waiting (some overdue), c) =>
      if settings.listing.queryTimeoutMs ≤ settings.service.timeoutSecs * 1000 then
        (some (compress r overdue), c)
      else (some timedOut, c)
    | (.waiting none, c) => (some timedOut, c)
    | (.crashed, c) => (none, c)

/-- What happens to every response in the end. One to a method that the resource does not know lists
those that it knows, and one to a `HEAD` loses its body. -/
def finish (r : Request) (response : Response) : Response :=
  let response := match Resource.ofPath? r.path with
    | some resource =>
      if resource.knows r.method then response
      else response.withHeader "allow" (String.intercalate "," resource.methods)
    | none => response
  if r.method = "HEAD" then response.withoutBody else response

/-- The server with all that happens to every request. `header` carries the identifier of a
request. -/
def serve (settings : Settings) (header : String) (occasion : Occasion) (r : Request)
    (c : Connection) : Response × Connection :=
  let (name, r) := match r.headers.get? header with
    | some name => (name, r)
    | none =>
      let name := requestName occasion.requestId
      (name, { r with headers := r.headers ++ [(header, name)] })
  match limited settings occasion r c with
  | (some response, c) => (finish r (response.withHeader header name), c)
  | (none, c) => (finish r broken, c)

/-- The service without anything around it. A wait that nothing ends counts as taking too long. -/
def serveBare (settings : Settings) (occasion : Occasion) (r : Request) (c : Connection) :
    Option Response × Connection :=
  match answer settings occasion maxBodyLength r c with
  | (.answered response, c) => (some (finish r response), c)
  | (.waiting overdue, c) => (some (finish r (overdue.getD timedOut)), c)
  | (.crashed, c) => (none, c)

end NotePager.Server

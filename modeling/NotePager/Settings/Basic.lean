/-!
# Settings

What an operator may set, in four sections, each with its defaults.
-/

namespace NotePager

/-- The service itself. -/
structure ServiceSettings where
  name : String := "notes-service"
  /-- The port to listen on, of 16 bits. -/
  port : Nat := 8080
  logLevel : String := "info"
  /-- How long a request may take, in seconds. -/
  timeoutSecs : Nat := 30
  environment : String := "dev"
  deriving DecidableEq, Repr

/-- What is done to every request. -/
structure MiddlewareSettings where
  /-- The largest request body, in mebibytes. -/
  bodyLimitMb : Nat := 2
  /-- The header that carries the identifier of a request. -/
  requestIdHeader : String := "x-request-id"
  deriving DecidableEq, Repr

/-- Listings. -/
structure ListingSettings where
  /-- How long a listing may take, in milliseconds. -/
  queryTimeoutMs : Nat := 5000
  deriving DecidableEq, Repr

/-- Who calls. -/
structure AuthSettings where
  /-- The header that names the owner. -/
  ownerHeader : String := "x-user-id"
  deriving DecidableEq, Repr

/-- All settings. -/
structure Settings where
  service : ServiceSettings := {}
  middleware : MiddlewareSettings := {}
  listing : ListingSettings := {}
  auth : AuthSettings := {}
  deriving DecidableEq, Repr

namespace Settings

/-- The address to listen on. -/
def bindAddress (s : Settings) : String := "0.0.0.0:" ++ toString s.service.port

/-- The largest request body in bytes, as far as it fits 64 bits. -/
def bodyLimitBytes (s : Settings) : Nat := min (s.middleware.bodyLimitMb * 1048576) (UInt64.size - 1)

/-- Headers whose values are secrets. -/
def sensitiveHeaders : List String :=
  ["authorization", "proxy-authorization", "cookie", "set-cookie", "x-api-key", "x-auth-token"]

end Settings

end NotePager

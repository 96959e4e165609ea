import NotePager.Http.Message
import NotePager.Settings.Basic
import NotePager.Store.Access

/-!
# Health endpoints

Whether the service runs, which it does if it answers, and whether its store can be reached, which
is tried with a count that no note passes.
-/

namespace NotePager.Health

open Http

/-- The version that the service reports. -/
def version : String := "0.4.0"

/-- The service runs. -/
def alive (settings : Settings) : Response := .json 200 (.object [
  ("status", .text "healthy"),
  ("service", .text settings.service.name),
  ("version", .text version)])

/-- The report on the store. -/
def report (settings : Settings) (ready : Bool) (message : String) : Response :=
  let store : Json := .object [("healthy", .bool ready), ("message", .text message)]
  .json (if ready then 200 else 503) (.object [
    ("ready", .bool ready),
    ("service", .text settings.service.name),
    ("dependencies", .object [("store", store)])])

/-- Whether the store can be reached. -/
def ready [PatternEngine] (settings : Settings) : Access ε Response := fun c =>
  match Access.count (.any []) c with
  | (.ok _, c) => (.ok (report settings true "Reachable"), c)
  | (.error (.failed e), c) => (.ok (report settings false ("Probe failed: " ++ e.failure.name)), c)
  | (.error (.waiting _), c) => (.error (.waiting none), c)
  | (.error .crashed, c) => (.error .crashed, c)

end NotePager.Health

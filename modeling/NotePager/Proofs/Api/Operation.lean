import NotePager.Api.Server

/-!
# What requests ask for

A request asks for an operation on notes by its path and its method (`called?`), and the endpoint
that it reaches does the work of that operation (`Server.endpoint_eq`). What holds of the work of
every operation, of the probes and of the answer to unknown methods holds of every endpoint
(`Server.endpoint_cases`).
-/

namespace NotePager

open Http

/-- What a method asks of a resource. -/
def Resource.operation? : Resource → String → Option ApiOperation
  | notes, method =>
    if method = "GET" ∨ method = "HEAD" then some .list
    else if method = "POST" then some .create
    else none
  | note _, method =>
    if method = "GET" ∨ method = "HEAD" then some .get
    else if method = "PATCH" then some .update
    else if method = "DELETE" then some .delete
    else none
  | health, _ | ready, _ => none

/-- The operation that a request asks for, if it asks for one on notes. -/
def called? (r : Request) : Option ApiOperation :=
  (Resource.ofPath? r.path).bind (·.operation? r.method)

/-- The segment of the path that names a note. -/
def Resource.segment : Resource → String
  | note segment => segment
  | notes | health | ready => ""

/-- The work of an operation. -/
def Notes.work (settings : Settings) (occasion : Occasion) (limit : Nat) (segment : String)
    (r : Request) : ApiOperation → Notes.Work Response
  | .list => list settings r
  | .get => get settings segment r
  | .create => create settings occasion limit r
  | .update => update settings occasion limit segment r
  | .delete => delete settings segment r

variable {settings : Settings} {occasion : Occasion} {limit : Nat} {r : Request}
  {resource : Resource} {op : ApiOperation}

/-- `Resource.operation?` inverted: the resource and the methods that ask for each operation. -/
theorem Resource.operation?_eq_some {method : String} (hop : resource.operation? method = some op) :
    (resource = notes ∧ (method = "GET" ∨ method = "HEAD") ∧ op = .list)
    ∨ (resource = notes ∧ method = "POST" ∧ op = .create)
    ∨ ∃ segment, resource = note segment
      ∧ ((method = "GET" ∨ method = "HEAD") ∧ op = .get
        ∨ method = "PATCH" ∧ op = .update
        ∨ method = "DELETE" ∧ op = .delete) := by
  cases resource with
  | notes =>
    simp only [operation?] at hop
    split at hop
    · next hread => cases hop; exact .inl ⟨rfl, hread, rfl⟩
    · split at hop
      · next hmethod => cases hop; exact .inr (.inl ⟨rfl, hmethod, rfl⟩)
      · cases hop
  | note segment =>
    simp only [operation?] at hop
    split at hop
    · next hread => cases hop; exact .inr (.inr ⟨segment, rfl, .inl ⟨hread, rfl⟩⟩)
    · split at hop
      · next hmethod => cases hop; exact .inr (.inr ⟨segment, rfl, .inr (.inl ⟨hmethod, rfl⟩)⟩)
      · split at hop
        · next hmethod => cases hop; exact .inr (.inr ⟨segment, rfl, .inr (.inr ⟨hmethod, rfl⟩)⟩)
        · cases hop
  | health | ready => cases hop

/-- The `endpoint` of a resource and a method that ask for an operation is `Notes.work` of this
operation. -/
theorem Server.endpoint_eq (hop : resource.operation? r.method = some op) :
    endpoint settings occasion limit resource r
      = Notes.work settings occasion limit resource.segment r op := by
  -- An equation for each row would have to tell the methods apart letter by letter.
  delta endpoint
  rcases Resource.operation?_eq_some hop with
    ⟨rfl, hmethod | hmethod, rfl⟩ | ⟨rfl, hmethod, rfl⟩
    | ⟨segment, rfl, ⟨hmethod | hmethod, rfl⟩ | ⟨hmethod, rfl⟩ | ⟨hmethod, rfl⟩⟩
  all_goals
    rw [hmethod]
    rfl

/-- A property of the work of every operation, of `Health.alive`, of `Health.ready` and of the
answer 405 holds of every `endpoint`. -/
theorem Server.endpoint_cases (resource : Resource) {P : Notes.Work Response → Prop}
    (work : ∀ op, resource.operation? r.method = some op →
      P (Notes.work settings occasion limit resource.segment r op))
    (alive : r.method = "GET" ∨ r.method = "HEAD" → P (return Health.alive settings))
    (ready : r.method = "GET" ∨ r.method = "HEAD" → P (Health.ready settings))
    (unknown : P (return .empty 405)) : P (endpoint settings occasion limit resource r) := by
  cases hop : resource.operation? r.method with
  | some op => exact endpoint_eq hop ▸ work op hop
  | none =>
    delta endpoint
    split
    -- The first rows are those for operations.
    iterate 7 next hmethod => simp [Resource.operation?, hmethod] at hop
    · next hmethod => exact alive (.inl hmethod)
    · next hmethod => exact alive (.inr hmethod)
    · next hmethod => exact ready (.inl hmethod)
    · next hmethod => exact ready (.inr hmethod)
    · exact unknown

end NotePager

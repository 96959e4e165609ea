import NotePager.Store.Basic

/-!
# Access to a store

Work that calls a store goes through a connection: the store, whether the caller has given up, and
the calls made so far. A connection also carries the faults that its calls are to meet, so that work
can be run against a store that fails, never answers, or breaks down in the middle.

Work halts at the first error. A call that never answers does not keep a second piece of work that
was begun along with it from running (`Access.both`); once that one is over, the whole work waits,
and only cancellation can still end it.
-/

namespace NotePager

/-- A call as a store sees it. -/
inductive StoreCall where
  | find (query : Query)
  | count (filter : Filter)
  | insert
  | update
  | delete

/-- The operation that a call asks for. -/
def StoreCall.operation : StoreCall → StoreOperation
  | find _ => .find
  | count _ => .count
  | insert => .insert
  | update => .update
  | delete => .delete

/-- What befalls a call. -/
inductive FaultKind where
  /-- The call fails, without reaching the notes. -/
  | fail (failure : StoreFailure) (message : String)
  /-- The caller gives up as the call begins. -/
  | cancelBefore
  /-- The caller gives up as the call ends. -/
  | cancelAfter
  /-- The call never answers. -/
  | hang
  /-- The call brings down the work it belongs to. -/
  | crash
  deriving DecidableEq, Repr

/-- A fault that befalls the `nth` call of its operation, counted from 1. -/
structure Fault where
  operation : StoreOperation
  nth : Nat := 1
  kind : FaultKind
  deriving DecidableEq, Repr

/-- A store as one piece of work reaches it. -/
structure Connection where
  store : Store
  /-- The caller has given up. -/
  cancelled : Bool := false
  /-- The faults that calls are to meet. -/
  faults : List Fault := []
  /-- The calls made so far, the last one first. -/
  calls : List StoreCall := []

namespace Connection

/-- How many calls of the operation have been made. -/
def callCount (c : Connection) (operation : StoreOperation) : Nat :=
  c.calls.countP (·.operation == operation)

/-- The fault that the next call of the operation meets. -/
def nextFault (c : Connection) (operation : StoreOperation) : Option FaultKind :=
  (c.faults.find? fun f => f.operation == operation && f.nth == c.callCount operation + 1).map
    Fault.kind

end Connection

/-- Why work has halted. -/
inductive Halt (ε : Type) where
  /-- It failed. -/
  | failed (error : ε)
  /-- It waits for a call that never answers. If the work listens to cancellation, that would end
  the wait with an error. -/
  | waiting (onCancel : Option ε)
  /-- It was brought down. -/
  | crashed

/-- Work that calls a store. -/
abbrev Access (ε α : Type) := ExceptT (Halt ε) (StateM Connection) α

namespace Access

/-- Halt with an error. -/
def fail (error : ε) : Access ε α := throw (.failed error)

/-- Two pieces of work that are begun together. The first runs as far as it gets, then the second. A
failure of one ends both; a wait of one does not keep the other from its end. -/
def both (first : Access ε α) (second : Access ε β) : Access ε (α × β) := fun c =>
  match first c with
  | (.ok a, c) =>
    match second c with
    | (.ok b, c) => (.ok (a, b), c)
    | (.error halt, c) => (.error halt, c)
  | (.error (.waiting w), c) =>
    match second c with
    | (.ok _, c) => (.error (.waiting w), c)
    | (.error halt, c) => (.error halt, c)
  | (.error halt, c) => (.error halt, c)

/-- How work ends that runs on its own: a wait is over as soon as the caller has given up. -/
def settle (work : Access ε α) : Access ε α := fun c =>
  match work c with
  | (.error (.waiting (some e)), c) =>
    if c.cancelled then (.error (.failed e), c) else (.error (.waiting (some e)), c)
  | outcome => outcome

/-- Make a call: note it down and let it meet its fault, if there is one for it. -/
def perform (call : StoreCall) (answer : Access StoreError α) : Access StoreError α := do
  let c ← get
  set { c with calls := call :: c.calls }
  match c.nextFault call.operation with
  | none => answer
  | some (.fail failure message) => fail ⟨call.operation, failure, message⟩
  | some .cancelBefore => do
    modify fun c => { c with cancelled := true }
    answer
  | some .cancelAfter => fun c =>
    let (outcome, c) := answer c
    (outcome, { c with cancelled := true })
  | some .hang => throw (.waiting none)
  | some .crash => throw .crashed

/-- Answer a reading call. A filter without meaning is an error even when the caller has given
up. -/
def answerRead (operation : StoreOperation) (read : Store → Except FilterError α) :
    Access StoreError α := do
  let c ← get
  match read c.store with
  | .error e => fail (.queryFailed operation e.message)
  | .ok a => if c.cancelled then fail (.cancelled operation) else return a

section
variable [PatternEngine]

/-- The notes that a query asks for. -/
def find (q : Query) : Access StoreError (List Note) :=
  perform (.find q) (answerRead .find (·.find q))

/-- How many notes pass. -/
def count (f : Filter) : Access StoreError Nat :=
  perform (.count f) (answerRead .count (·.count f))

/-- The first note in the store that passes, if there is one. -/
def findOne (f : Filter) : Access StoreError (Option Note) := do
  return (← find { filter := f, limit := some 1 }).head?

end

/-- Add a note. -/
def insert (note : Note) : Access StoreError Note :=
  perform .insert do
    let c ← get
    match c.store.insert note with
    | none => fail (.queryFailed .insert ("duplicate id " ++ note.id.toHex))
    | some store =>
      set { c with store := store }
      return note

/-- Patch the owner's note with this identifier: the note after the patch, if there is one. -/
def update (owner : Owner) (id : NoteId) (patch : Patch) (now : Instant) :
    Access StoreError (Option Note) :=
  perform .update do
    let c ← get
    let (note, store) := c.store.update owner id patch now
    set { c with store := store }
    return note

/-- Remove the owner's note with this identifier: whether there was one. -/
def delete (owner : Owner) (id : NoteId) : Access StoreError Bool :=
  perform .delete do
    let c ← get
    let (found, store) := c.store.delete owner id
    set { c with store := store }
    return found

/-- Put the failures of some work into other words. -/
def mapError (f : ε → ε') (work : Access ε α) : Access ε' α := fun c =>
  match work c with
  | (.ok a, c) => (.ok a, c)
  | (.error (.failed e), c) => (.error (.failed (f e)), c)
  | (.error (.waiting w), c) => (.error (.waiting (w.map f)), c)
  | (.error .crashed, c) => (.error .crashed, c)

end Access

end NotePager

/-!
# Store errors

A call of a store that fails names the operation, the kind of failure it met, and a message of the
store's own.
-/

namespace NotePager

/-- What was asked of the store. -/
inductive StoreOperation where
  | find
  | findOne
  | count
  | insert
  | update
  | delete
  deriving DecidableEq, Repr

/-- The name of an operation. -/
def StoreOperation.name : StoreOperation → String
  | find => "find"
  | findOne => "find_one"
  | count => "count"
  | insert => "insert"
  | update => "update"
  | delete => "delete"

/-- The kinds of failure. -/
inductive StoreFailure where
  /-- There is no such note. -/
  | notFound
  /-- The store cannot be reached. -/
  | connectionFailed
  /-- The caller's time is over. -/
  | timeout
  /-- The caller has given up. -/
  | cancelled
  /-- The store refuses the query. -/
  | queryFailed
  /-- A stored note cannot be read. -/
  | unreadable
  | other
  deriving DecidableEq, Repr

/-- The name of a kind of failure. -/
def StoreFailure.name : StoreFailure → String
  | notFound => "not_found"
  | connectionFailed => "connection_failed"
  | timeout => "timeout"
  | cancelled => "cancelled"
  | queryFailed => "query_failed"
  | unreadable => "serialization_error"
  | other => "other"

/-- A failed call. -/
structure StoreError where
  operation : StoreOperation
  failure : StoreFailure
  message : String
  deriving DecidableEq, Repr

namespace StoreError

/-- The error in words, with its context. -/
def describe (e : StoreError) : String :=
  "Store " ++ e.failure.name ++ " error during " ++ e.operation.name ++ ": " ++ e.message

/-- The call ended because its caller gave up. -/
def cancelled (operation : StoreOperation) : StoreError :=
  ⟨operation, .cancelled, "request cancelled"⟩

/-- The store refused the query. -/
def queryFailed (operation : StoreOperation) (message : String) : StoreError :=
  ⟨operation, .queryFailed, message⟩

end StoreError

end NotePager

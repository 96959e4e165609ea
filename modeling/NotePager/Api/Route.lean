/-!
# Routes

What a path names and what can be done with it. Paths are compared as they are written, letter by
letter; only the segment that names a note may hold anything.
-/

namespace NotePager

/-- What a path names. -/
inductive Resource where
  | notes
  /-- A note, by a segment of the path as it is written. -/
  | note (segment : String)
  | health
  | ready
  deriving DecidableEq, Repr

namespace Resource

/-- The path of the notes. -/
def notesPath : String := "/api/v1/notes"

/-- What the path names. -/
def ofPath? (path : String) : Option Resource :=
  if path = "/health" then some health
  else if path = "/ready" then some ready
  else if path = notesPath then some notes
  else
    let start := (notesPath ++ "/").toList
    let cs := path.toList
    let segment := cs.drop start.length
    if start.isPrefixOf cs && !segment.isEmpty && !segment.contains '/' then
      some (note (String.ofList segment))
    else none

/-- The methods that the resource knows, as a response lists them. -/
def methods : Resource → List String
  | notes => ["GET", "HEAD", "POST"]
  | note _ => ["GET", "HEAD", "PATCH", "DELETE"]
  | health | ready => ["GET", "HEAD"]

/-- The resource knows the method. -/
def knows (r : Resource) (method : String) : Bool := r.methods.contains method

end Resource

end NotePager

import NotePager.Note.Id
import NotePager.Time.Instant

/-!
# Notes

A note belongs to one owner for good. Its three texts may change, its identifier, its owner and the
time of its creation never do.
-/

namespace NotePager

/-- Whom a note belongs to. Owners are known by name, and any string is a name. -/
structure Owner where
  name : String
  deriving DecidableEq, Repr

/-- A short text that its owner keeps. -/
structure Note where
  id : NoteId
  owner : Owner
  title : String
  body : String
  color : String
  /-- When the note was written first. -/
  createdAt : Instant
  /-- When the note was written last. -/
  updatedAt : Instant
  deriving DecidableEq, Repr

end NotePager

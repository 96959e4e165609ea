import NotePager.Query.Filter

/-!
# What a listing is sorted by

A listing is sorted by one of the two instants of a note or by its title. The instants of a note can
be read back from it; a title is known to change between two pages, so cursors carry it.
-/

namespace NotePager

/-- What a listing is sorted by. -/
inductive SortBy where
  | createdAt
  | updatedAt
  | title
  deriving DecidableEq, Repr

namespace SortBy

/-- The field of the notes. -/
def field : SortBy → NoteField
  | createdAt => .createdAt
  | updatedAt => .updatedAt
  | title => .title

/-- The name, which is that of the field. -/
def name (s : SortBy) : String := s.field.name

/-- The sort with this name. -/
def ofName? (s : String) : Option SortBy := [createdAt, updatedAt, title].find? (·.name == s)

/-- Cursors carry the sorted value. -/
def carriesTitle (s : SortBy) : Bool := s == title

theorem ofName?_name (s : SortBy) : ofName? s.name = some s := by cases s <;> decide

end SortBy

end NotePager

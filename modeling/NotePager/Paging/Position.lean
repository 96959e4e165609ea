import NotePager.Paging.Cursor
import NotePager.Query.Order

/-!
# Positions

A listing is ordered by the sorted field and then by the identifier, both the same way, so no two
notes are equal in it. A position is a value of that pair. It need not be the place of a note that
exists: a cursor may carry the position of a note that has been removed since.
-/

namespace NotePager

/-- A place in the order of a listing. -/
structure Position where
  value : FieldValue
  id : NoteId
  deriving DecidableEq, Repr

namespace Position

/-- The place of a note. -/
def ofNote (n : Note) (sort : SortBy) : Position := ⟨n.value sort.field, n.id⟩

/-- The place that a cursor carries in itself, if it does. -/
def ofCursor? : Cursor → Option Position
  | .note _ => none
  | .titled title id => some ⟨.text title, id⟩

end Position

/-- The keys of a listing. -/
def SortBy.keys (sort : SortBy) (order : SortOrder) : List SortKey :=
  [⟨sort.field, order⟩, ⟨.id, order⟩]

/-- The field lies beyond the value, in the direction of the order. -/
def Filter.beyond (order : SortOrder) (field : NoteField) (value : FieldValue) : Filter :=
  match order with
  | .ascending => .greater field value
  | .descending => .less field value

/-- The note comes after the position: its value lies beyond, or is the same and its identifier lies
beyond. -/
def Filter.after (sort : SortBy) (order : SortOrder) (p : Position) : Filter :=
  .any [
    .beyond order sort.field p.value,
    .all [.equal sort.field p.value, .beyond order .id (.id p.id)]]

end NotePager

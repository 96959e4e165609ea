import NotePager.Query.Filter

/-!
# Orders

Notes are ordered by a list of keys, the first of which counts most. Notes that agree on every key
are equal in the order, whatever else they hold.
-/

namespace NotePager

/-- Upwards or downwards. -/
inductive SortOrder where
  | ascending
  | descending
  deriving DecidableEq, Repr

namespace SortOrder

/-- The name of the order. -/
def name : SortOrder → String
  | ascending => "asc"
  | descending => "desc"

/-- The other way. -/
def reversed : SortOrder → SortOrder
  | ascending => descending
  | descending => ascending

/-- The outcome of a comparison when things go this way. -/
def apply : SortOrder → Ordering → Ordering
  | ascending, o => o
  | descending, o => o.swap

@[simp] theorem reversed_reversed (o : SortOrder) : o.reversed.reversed = o := by cases o <;> rfl

theorem apply_reversed (order : SortOrder) (o : Ordering) :
    order.reversed.apply o = (order.apply o).swap := by
  cases order <;> simp [reversed, apply]

end SortOrder

/-- A field to order by, and which way. -/
structure SortKey where
  field : NoteField
  order : SortOrder
  deriving DecidableEq, Repr

/-- The two notes by this key alone. -/
def SortKey.compare (key : SortKey) (a b : Note) : Ordering :=
  key.order.apply (((a.value key.field).compare? (b.value key.field)).getD .eq)

/-- The two notes by the first key in which they differ. -/
def compareBy : List SortKey → Note → Note → Ordering
  | [], _, _ => .eq
  | key :: keys, a, b => (key.compare a b).then (compareBy keys a b)

end NotePager

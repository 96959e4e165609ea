import NotePager.Note.Basic

/-!
# Filters

What may be asked of a note: how one of its fields compares with a value, whether a text field
matches a pattern, whether its texts hold one of some words, and any combination of these. Filters
are data, so that a store can look at them as a whole; `Filter.compile` gives them their meaning.
-/

namespace NotePager

/-- The fields of a note that filters and orders can name. -/
inductive NoteField where
  | id
  | owner
  | title
  | body
  | color
  | createdAt
  | updatedAt
  deriving DecidableEq, Repr

/-- The name of a field. -/
def NoteField.name : NoteField → String
  | id => "id"
  | owner => "owner_id"
  | title => "title"
  | body => "body"
  | color => "color"
  | createdAt => "created_at"
  | updatedAt => "updated_at"

/-- A value that a field can be compared with. -/
inductive FieldValue where
  | text (s : String)
  | time (t : Instant)
  | id (i : NoteId)
  deriving DecidableEq, Repr

/-- The order of two values of one kind. Values of two kinds have no order. -/
def FieldValue.compare? : FieldValue → FieldValue → Option Ordering
  | text a, text b => some (compare a b)
  | time a, time b => some (compare a b)
  | id a, id b => some (compare a b)
  | _, _ => none

/-- The value of a field. -/
def Note.value (n : Note) : NoteField → FieldValue
  | .id => .id n.id
  | .owner => .text n.owner.name
  | .title => .text n.title
  | .body => .text n.body
  | .color => .text n.color
  | .createdAt => .time n.createdAt
  | .updatedAt => .time n.updatedAt

/-- How a field stands to a value. -/
inductive Comparison where
  | equal
  | greater
  | less
  /-- The field is a text that holds what the value, a pattern, describes. -/
  | like
  deriving DecidableEq, Repr

/-- One field against one value. -/
structure Condition where
  field : NoteField
  comparison : Comparison
  value : FieldValue
  deriving DecidableEq, Repr

/-- What is asked of a note. -/
inductive Filter where
  /-- Every part holds. With no parts, every note passes. -/
  | all (parts : List Filter)
  /-- Some part holds. With no parts, no note passes. -/
  | any (parts : List Filter)
  /-- The condition holds. -/
  | condition (c : Condition)
  /-- A word of this text stands in the note's title or body as a word of its own. -/
  | words (text : String)

namespace Filter

/-- The field has this value. -/
def equal (field : NoteField) (value : FieldValue) : Filter := condition ⟨field, .equal, value⟩

/-- The field is greater than this value. -/
def greater (field : NoteField) (value : FieldValue) : Filter :=
  condition ⟨field, .greater, value⟩

/-- The field is less than this value. -/
def less (field : NoteField) (value : FieldValue) : Filter := condition ⟨field, .less, value⟩

/-- The field matches this pattern. -/
def like (field : NoteField) (pattern : String) : Filter :=
  condition ⟨field, .like, .text pattern⟩

/-- The parts of a conjunction; any other filter is the only part of itself. -/
def parts : Filter → List Filter
  | all fs => fs
  | f => [f]

/-- Both filters hold. The parts of both stand side by side, so conjunction is associative. -/
def and (a b : Filter) : Filter := all (a.parts ++ b.parts)

@[simp] theorem parts_and (a b : Filter) : (a.and b).parts = a.parts ++ b.parts := rfl

end Filter

end NotePager

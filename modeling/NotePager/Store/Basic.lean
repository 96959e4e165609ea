import NotePager.Note.Draft
import NotePager.Query.Basic
import NotePager.Store.Error

/-!
# Stores

A store keeps notes in the order in which they were inserted. Reading goes by queries, writing by
identifier and owner: a note of another owner is treated as if it were not there, but its identifier
is taken all the same.
-/

namespace NotePager

/-- The notes that are kept, oldest insertion first. -/
structure Store where
  notes : List Note := []

namespace Store

/-- The notes that pass, in the order of the query. Equal notes stay in the order of the store. -/
def select (s : Store) (sort : List SortKey) (p : Predicate) : List Note :=
  (s.notes.filter p).mergeSort fun a b => (compareBy sort a b).isLE

/-- The window of some notes that leaves out `skip` notes and holds `limit` notes at most. -/
def window (skip : Nat) (limit : Option Nat) (notes : List Note) : List Note :=
  match limit with
  | none => notes.drop skip
  | some n => (notes.drop skip).take n

section
variable [PatternEngine]

/-- The notes that a query asks for. -/
def find (s : Store) (q : Query) : Except FilterError (List Note) :=
  q.filter.compile.map fun p => window q.skip q.limit (s.select q.sort p)

/-- How many notes pass. -/
def count (s : Store) (f : Filter) : Except FilterError Nat :=
  f.compile.map fun p => s.notes.countP p

end

/-- Add a note behind the others. An identifier that is taken, by any owner, is refused. -/
def insert (s : Store) (note : Note) : Option Store :=
  if s.notes.any (·.id == note.id) then none else some ⟨s.notes ++ [note]⟩

/-- The note has this identifier and this owner. -/
def isOwned (owner : Owner) (id : NoteId) (note : Note) : Bool :=
  note.id == id && note.owner == owner

/-- Patch the first note that meets the condition: the note after the patch, if there is one, and
all notes. -/
def patchFirst (p : Note → Bool) (f : Note → Note) : List Note → Option Note × List Note
  | [] => (none, [])
  | n :: ns =>
    if p n then (some (f n), f n :: ns)
    else
      let (found, ns) := patchFirst p f ns
      (found, n :: ns)

/-- Patch the owner's note with this identifier: the note after the patch, if there is one, and the
store. -/
def update (s : Store) (owner : Owner) (id : NoteId) (patch : Patch) (now : Instant) :
    Option Note × Store :=
  let (note, notes) := patchFirst (isOwned owner id) (patch.apply · now) s.notes
  (note, ⟨notes⟩)

/-- Remove the owner's note with this identifier: whether there was one, and the store. -/
def delete (s : Store) (owner : Owner) (id : NoteId) : Bool × Store :=
  (s.notes.any (isOwned owner id), ⟨s.notes.filter fun n => !isOwned owner id n⟩)

end Store

end NotePager

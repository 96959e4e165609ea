import NotePager.Json.Reader
import NotePager.Note.Draft
import NotePager.Time.Timestamp

/-!
# Notes as JSON

How notes, drafts and patches are written and read. A note has all its members, identifiers in
hexadecimal and instants as timestamps. A draft may lack members; a patch may also set them to
`null`, which says the same as leaving them out.
-/

namespace NotePager

open Json

/-- An identifier, written in hexadecimal. -/
def NoteId.reader : Reader NoteId := Reader.string.filterMap fun s => (NoteId.ofHex s).toOption

/-- An instant, written as a timestamp. -/
def Instant.reader : Reader Instant := Reader.string.filterMap Timestamp.read?

namespace Note

/-- The members of a note. -/
def json (n : Note) : Json := .object [
  ("id", .text n.id.toHex),
  ("owner_id", .text n.owner.name),
  ("title", .text n.title),
  ("body", .text n.body),
  ("color", .text n.color),
  ("created_at", .text (Timestamp.write n.createdAt)),
  ("updated_at", .text (Timestamp.write n.updatedAt))]

/-- The members of a note that have been read. -/
structure Parts where
  id : Option NoteId := none
  owner : Option String := none
  title : Option String := none
  body : Option String := none
  color : Option String := none
  createdAt : Option Instant := none
  updatedAt : Option Instant := none

/-- The note, once all its members have been read. -/
def Parts.note? (p : Parts) : Option Note := do
  return {
    id := ← p.id
    owner := ⟨← p.owner⟩
    title := ← p.title
    body := ← p.body
    color := ← p.color
    createdAt := ← p.createdAt
    updatedAt := ← p.updatedAt }

/-- A note. -/
def reader : Reader Note := Reader.record [
  .into "id" NoteId.reader fun v p => { p with id := some v },
  .into "owner_id" Reader.string fun v p => { p with owner := some v },
  .into "title" Reader.string fun v p => { p with title := some v },
  .into "body" Reader.string fun v p => { p with body := some v },
  .into "color" Reader.string fun v p => { p with color := some v },
  .into "created_at" Instant.reader fun v p => { p with createdAt := some v },
  .into "updated_at" Instant.reader fun v p => { p with updatedAt := some v }]
  {} Parts.note?

end Note

/-- A draft. -/
def Draft.reader : Reader Draft := Reader.record [
  .into "title" Reader.string fun v d => { d with title := v },
  .into "body" Reader.string fun v d => { d with body := v },
  .into "color" Reader.string fun v d => { d with color := v }]
  {} some

namespace Patch

/-- The members that a patch sets. -/
def json (p : Patch) : Json :=
  .object (optional "title" (p.title.map .text) ++ optional "body" (p.body.map .text)
    ++ optional "color" (p.color.map .text))

/-- A patch. -/
def reader : Reader Patch := Reader.record [
  .into "title" (Reader.nullable Reader.string) fun v p => { p with title := v },
  .into "body" (Reader.nullable Reader.string) fun v p => { p with body := v },
  .into "color" (Reader.nullable Reader.string) fun v p => { p with color := v }]
  {} some

end Patch

end NotePager

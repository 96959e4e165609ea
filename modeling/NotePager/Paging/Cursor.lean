import NotePager.Encoding.Base64Url
import NotePager.Json.Reader
import NotePager.Note.Json
import NotePager.Paging.Sort

/-!
# Cursors

A cursor marks a place in a listing by the note that stands there. It travels as a string. For the
sorts by instant the string is the note's identifier; for the sort by title it is the URL form of a
JSON object with the title and the identifier. The sort alone decides how a string is read.
-/

namespace NotePager

open Encoding

/-- Marks the place of a note. -/
inductive Cursor where
  /-- The note, whose place has to be looked up. -/
  | note (id : NoteId)
  /-- The note and the title that it had. -/
  | titled (title : String) (id : NoteId)
  deriving DecidableEq, Repr

/-- Why a string is no cursor. -/
inductive CursorError where
  /-- It is no identifier. -/
  | id (cause : NoteId.Error)
  /-- It is not in URL form. -/
  | encoding
  /-- What it carries is not the JSON object. -/
  | payload (cause : Json.Fault)
  deriving DecidableEq, Repr

/-- The error in words. -/
def CursorError.message : CursorError → String
  | id cause => cause.message
  | encoding => "cursor is not valid base64"
  | payload _ => "cursor payload is malformed"

namespace Cursor

/-- The marked note. -/
def id : Cursor → NoteId
  | note id => id
  | titled _ id => id

/-- The title that the cursor carries. -/
def title? : Cursor → Option String
  | note _ => none
  | titled title _ => some title

/-- The cursor at a note of a listing with this sort. -/
def atNote (n : Note) (sort : SortBy) : Cursor :=
  if sort.carriesTitle then titled n.title n.id else note n.id

/-- What a cursor with a title carries. -/
def payload (title : String) (id : NoteId) : Json :=
  .object [("title", .text title), ("id", .text id.toHex)]

/-- The string form. -/
def encode : Cursor → String
  | note id => id.toHex
  | titled title id => String.ofList (Base64Url.encode (payload title id).bytes)

/-- The title and the identifier of a payload, once both have been read. -/
def payloadReader : Json.Reader (String × NoteId) := Json.Reader.record [
  .into "title" Json.Reader.string fun v (p : Option String × Option NoteId) => (some v, p.2),
  .into "id" NoteId.reader fun v p => (p.1, some v)]
  (none, none) fun (title, id) => return (← title, ← id)

/-- Read a cursor of a listing with this sort. -/
def decode (raw : String) (sort : SortBy) : Except CursorError Cursor :=
  if sort.carriesTitle then
    match Base64Url.decode raw.toList with
    | none => .error .encoding
    | some bytes =>
      match payloadReader.run bytes with
      | .error e => .error (.payload e)
      | .ok (title, id) => .ok (titled title id)
  else
    match NoteId.ofHex raw with
    | .error e => .error (.id e)
    | .ok id => .ok (note id)

end Cursor

end NotePager

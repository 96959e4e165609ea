import NotePager.Note.Basic

/-!
# Drafts and patches

A draft holds the three texts of a note to be written, a patch the new values of those texts of a
note that are to change. Each text has a limit on its number of characters; `Draft.check` and
`Patch.check` name the first text over its limit, in the order title, body, color.
-/

namespace NotePager

/-- The texts of a note that its owner writes. -/
inductive NoteText where
  | title
  | body
  | color
  deriving DecidableEq, Repr

namespace NoteText

/-- The name of the text in messages. -/
def name : NoteText → String
  | title => "title"
  | body => "body"
  | color => "color"

/-- How many characters the text may have. -/
def limit : NoteText → Nat
  | title => 200
  | body => 100000
  | color => 32

end NoteText

/-- A text has more than `limit` characters. -/
structure TextTooLong where
  text : NoteText
  limit : Nat
  deriving DecidableEq, Repr

/-- The error in words. -/
def TextTooLong.message (e : TextTooLong) : String :=
  e.text.name ++ " must be at most " ++ toString e.limit ++ " characters"

/-- Pass the text on if it keeps its limit. -/
def NoteText.check (text : NoteText) (value : String) : Except TextTooLong Unit :=
  if value.length ≤ text.limit then .ok () else .error ⟨text, text.limit⟩

/-- The texts of a note to be written. A text that is not given is empty. -/
structure Draft where
  title : String := ""
  body : String := ""
  color : String := ""
  deriving DecidableEq, Repr

namespace Draft

/-- Every text keeps its limit, or else the first that does not. -/
def check (d : Draft) : Except TextTooLong Unit := do
  NoteText.title.check d.title
  NoteText.body.check d.body
  NoteText.color.check d.color

/-- The note that the owner writes with this draft. -/
def note (d : Draft) (id : NoteId) (owner : Owner) (now : Instant) : Note where
  id := id
  owner := owner
  title := d.title
  body := d.body
  color := d.color
  createdAt := now
  updatedAt := now

end Draft

/-- New values for texts of a note. A text without a new value stays as it is. -/
structure Patch where
  title : Option String := none
  body : Option String := none
  color : Option String := none
  deriving DecidableEq, Repr

namespace Patch

/-- The patch sets no text. -/
def isEmpty (p : Patch) : Bool := p.title.isNone && p.body.isNone && p.color.isNone

/-- Every text that is set keeps its limit, or else the first that does not. -/
def check (p : Patch) : Except TextTooLong Unit := do
  p.title.forM NoteText.title.check
  p.body.forM NoteText.body.check
  p.color.forM NoteText.color.check

/-- The note after the patch. -/
def apply (p : Patch) (note : Note) (now : Instant) : Note :=
  { note with
    title := p.title.getD note.title
    body := p.body.getD note.body
    color := p.color.getD note.color
    updatedAt := now }

end Patch

end NotePager

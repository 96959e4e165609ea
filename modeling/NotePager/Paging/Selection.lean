import NotePager.Paging.Position
import NotePager.Paging.Request
import NotePager.Query.Pattern

/-!
# Selections

The notes that a listing is about, whatever page of them is asked for: those of one owner, of one
color if a color is asked for, and with the searched text if there is one.
-/

namespace NotePager

/-- From this number of characters on, a search is for words. -/
def wordSearchLength : Nat := 3

/-- The notes with the searched text. A short text may stand anywhere in the title or the body, a
longer one is searched for by its words. -/
def Filter.search (text : String) : Filter :=
  if wordSearchLength ≤ text.length then .words text
  else
    let pattern := String.ofList (Pattern.escape text.toList)
    .any [.like .title pattern, .like .body pattern]

/-- The notes of the owner. -/
def Filter.ownedBy (owner : Owner) : Filter := .equal .owner (.text owner.name)

/-- The note with this identifier, if it is the owner's. -/
def Filter.ownedNote (owner : Owner) (id : NoteId) : Filter :=
  (ownedBy owner).and (.equal .id (.id id))

/-- What a listing is about. -/
structure Selection where
  owner : Owner
  search : Option String := none
  color : Option String := none
  deriving DecidableEq, Repr

/-- What a request is about when this owner makes it. -/
def ListRequest.selection (r : ListRequest) (owner : Owner) : Selection :=
  { owner, search := r.search, color := r.color }

namespace Selection

/-- More is asked than that the notes are the owner's. -/
def isNarrowed (s : Selection) : Bool := s.search.isSome || s.color.isSome

/-- The owner's notes of the color, if one is asked for. -/
def colorFilter (s : Selection) : Filter :=
  match s.color with
  | none => .ownedBy s.owner
  | some color => (Filter.ownedBy s.owner).and (.equal .color (.text color))

/-- The selected notes. -/
def filter (s : Selection) : Filter :=
  match s.search with
  | none => s.colorFilter
  | some text => s.colorFilter.and (.search text)

end Selection

end NotePager

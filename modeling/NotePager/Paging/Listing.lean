import NotePager.Paging.Page
import NotePager.Paging.Selection
import NotePager.Store.Access

/-!
# Listings

How a page is fetched. Next to a cursor, one note more than the page holds is read, only to see
whether there are more; pages before a cursor are read backwards and turned round. An offset is
checked against the number of selected notes first. Around an anchor, both sides are read outwards
from the anchor, which has to be one of the selected notes itself.

Calls of the store that do not need each other's answers are made together.
-/

namespace NotePager.Listing

variable [PatternEngine]

/-- A call of the store on behalf of a listing. It is not made once the caller has given up, and it
is given up as soon as the caller does. -/
def guarded (mode : PageMode) (operation : StoreOperation) (call : Access StoreError α) :
    Access ListError α := fun c =>
  let onCancel := ListError.store mode (.cancelled operation)
  if c.cancelled then (.error (.failed onCancel), c)
  else
    match (call.mapError (ListError.store mode)) c with
    | (.error (.waiting _), c) => (.error (.waiting (some onCancel)), c)
    | outcome => outcome

/-- How many notes are selected, and how many are the owner's. One count is enough for both unless
the selection is narrowed. -/
def totals (mode : PageMode) (s : Selection) : Access ListError Totals := do
  let selected := guarded mode .count (.count s.filter)
  if s.isNarrowed then
    let (selected, owned) ← selected.both (guarded mode .count (.count (.ownedBy s.owner)))
    return ⟨selected, owned⟩
  else
    let n ← selected
    return ⟨n, n⟩

/-- At most `limit` of the notes, and whether there were more. -/
def splitExtra (limit : Nat) (notes : List Note) : List Note × Bool :=
  (notes.take limit, limit < notes.length)

/-- The cursor at a note, if there is one. -/
def cursorAt (sort : SortBy) (n : Option Note) : Option String :=
  n.map fun n => (Cursor.atNote n sort).encode

/-- The query for the first notes of a filter in the order of a listing. -/
def queryFirst (f : Filter) (sort : SortBy) (order : SortOrder) (limit : Nat) : Query :=
  { filter := f, sort := sort.keys order, limit := some limit }

/-- The first page. -/
def firstPage (s : Selection) (sort : SortBy) (order : SortOrder) (limit : Nat) :
    Access ListError Page := do
  let (totals, rows) ← (totals .cursor s).both
    (guarded .cursor .find (.find (queryFirst s.filter sort order (limit + 1))))
  let (notes, hasMore) := splitExtra limit rows
  return {
    notes, hasMore, totals
    next := if hasMore then cursorAt sort notes.getLast? else none }

/-- The place that a cursor marks. The note of a cursor that does not carry its place has to be the
owner's, but need not be selected. -/
def resolve (s : Selection) (sort : SortBy) (cursor : Cursor) : Access ListError Position := do
  match Position.ofCursor? cursor with
  | some position => return position
  | none =>
    match ← guarded .cursor .findOne (.findOne (.ownedNote s.owner cursor.id)) with
    | none => Access.fail (.notFound (.cursorNote cursor.id))
    | some note => return .ofNote note sort

/-- The page next to a cursor. The way back from it is always offered, the way on only if there are
more notes. -/
def cursorPage (s : Selection) (sort : SortBy) (order : SortOrder) (limit : Nat) (cursor : Cursor)
    (direction : PageDirection) : Access ListError Page := do
  let (totals, position) ← (totals .cursor s).both (resolve s sort cursor)
  match direction with
  | .next => do
    let rows ← guarded .cursor .find (.find
      (queryFirst (s.filter.and (.after sort order position)) sort order (limit + 1)))
    let (notes, hasMore) := splitExtra limit rows
    return {
      notes, hasMore, totals
      prev := cursorAt sort notes.head?
      next := if hasMore then cursorAt sort notes.getLast? else none }
  | .prev => do
    let rows ← guarded .cursor .find (.find
      (queryFirst (s.filter.and (.after sort order.reversed position)) sort order.reversed
        (limit + 1)))
    let (notes, hasMore) := splitExtra limit rows
    let notes := notes.reverse
    return {
      notes, hasMore, totals
      prev := if hasMore then cursorAt sort notes.head? else none
      next := cursorAt sort notes.getLast? }

/-- The page behind the first `offset` notes. -/
def offsetPage (s : Selection) (sort : SortBy) (order : SortOrder) (limit offset : Nat) :
    Access ListError Page := do
  let totals ← totals .offset s
  if totals.selected ≤ offset ∧ (0 < totals.selected ∨ 0 < offset) then
    Access.fail (.offsetBeyondTotal offset totals.selected)
  let notes ← guarded .offset .find (.find
    { filter := s.filter, sort := sort.keys order, skip := offset, limit := some limit })
  return {
    notes, totals
    hasMore := offset + notes.length < totals.selected
    offset := some offset
    windowSize := some notes.length }

/-- The window around an anchor. -/
def anchorWindow (s : Selection) (sort : SortBy) (order : SortOrder) (anchor : Cursor)
    (span : Nat) : Access ListError Page := do
  match ← guarded .anchor .findOne (.findOne (s.filter.and (.equal .id (.id anchor.id)))) with
  | none => Access.fail (.notFound (.anchorNote anchor.id))
  | some note =>
    let position := Position.ofNote note sort
    let before := s.filter.and (.after sort order.reversed position)
    let after := s.filter.and (.after sort order position)
    let (index, totals, rowsBefore, rowsAfter) ← (guarded .anchor .count (.count before)).both
      ((totals .anchor s).both
        ((guarded .anchor .find (.find (queryFirst before sort order.reversed (span + 1)))).both
          (guarded .anchor .find (.find (queryFirst after sort order (span + 1))))))
    let (notesBefore, hasBefore) := splitExtra span rowsBefore
    let (notesAfter, hasAfter) := splitExtra span rowsAfter
    let notes := notesBefore.reverse ++ note :: notesAfter
    return {
      notes, totals
      hasMore := hasBefore || hasAfter
      prev := if hasBefore then cursorAt sort notes.head? else none
      next := if hasAfter then cursorAt sort notes.getLast? else none
      anchorIndex := some index }

/-- The page that the owner asks for. -/
def fetch (owner : Owner) (r : ListRequest) : Access ListError Page :=
  let s := r.selection owner
  match r.start with
  | .cursor none _ => firstPage s r.sort r.order r.limit
  | .cursor (some cursor) direction => cursorPage s r.sort r.order r.limit cursor direction
  | .offset offset => offsetPage s r.sort r.order r.limit offset
  | .anchor anchor span => anchorWindow s r.sort r.order anchor span

end NotePager.Listing

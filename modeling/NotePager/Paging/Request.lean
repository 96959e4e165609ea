import NotePager.Paging.Error
import NotePager.Paging.Parameters
import NotePager.Query.Order
import NotePager.Text.Blank

/-!
# Listing requests

A request is what parameters come to once they have been found to make sense together. It asks for
its page in one of three ways: from a cursor on, from an offset on, or around an anchor.
`Parameters.validate` looks at nothing but the parameters, and of several faults it always names the
same one.
-/

namespace NotePager

/-- On which side of its cursor a page lies. -/
inductive PageDirection where
  | next
  | prev
  deriving DecidableEq, Repr

/-- The name of a direction. -/
def PageDirection.name : PageDirection → String
  | next => "next"
  | prev => "prev"

/-- Which page is asked for. -/
inductive PageStart where
  /-- The notes next to a cursor, or the first notes if there is none. -/
  | cursor (cursor : Option Cursor) (direction : PageDirection)
  /-- The notes behind the first `offset`. -/
  | offset (offset : Nat)
  /-- The marked note and up to `span` notes on each side of it. -/
  | anchor (anchor : Cursor) (span : Nat)
  deriving DecidableEq, Repr

/-- The way to ask for such a page. -/
def PageStart.mode : PageStart → PageMode
  | cursor .. => .cursor
  | offset .. => .offset
  | anchor .. => .anchor

/-- The size of a page if none is given. -/
def defaultLimit : Nat := 50

/-- The span around an anchor if none is given. -/
def defaultSpan : Nat := 10

/-- A listing that may be asked for. -/
structure ListRequest where
  /-- The size of the page. Windows around an anchor go by their span instead. -/
  limit : Nat := defaultLimit
  start : PageStart := .cursor none .next
  /-- What to search for: neither empty nor with blanks around it. -/
  search : Option String := none
  /-- The color that notes must have. -/
  color : Option String := none
  sort : SortBy := .createdAt
  order : SortOrder := .descending
  deriving DecidableEq, Repr

/-- The text with A to Z in lower case. -/
def lowercase (s : String) : String := String.ofList (s.toList.map Char.toLower)

namespace Parameters

/-- The size of the page. -/
def validLimit (p : Parameters) : Except ListError Nat :=
  match p.limit with
  | none => .ok defaultLimit
  | some n =>
    if (minLimit : Int) ≤ n ∧ n ≤ maxLimit then .ok n.toNat else .error (.invalidLimit n)

/-- The sort, by its exact name. -/
def validSort (p : Parameters) : Except ListError SortBy :=
  match p.sort with
  | none => .ok .createdAt
  | some s =>
    match SortBy.ofName? s with
    | some sort => .ok sort
    | none => .error (.badRequest (.unknownSort s))

/-- The order, by its name in any case. -/
def validOrder (p : Parameters) : Except ListError SortOrder :=
  match p.order.map lowercase with
  | none => .ok .descending
  | some s =>
    if s = "desc" then .ok .descending
    else if s = "asc" then .ok .ascending
    else .error (.badRequest (.unknownOrder s))

/-- No two parameters are set that exclude each other, and none without the one it needs. -/
def checkTogether (p : Parameters) : Except ListError Unit :=
  if 1 < [p.cursor.isSome, p.offset.isSome, p.anchor.isSome].count true then
    .error (.badRequest .severalPositions)
  else if p.span.isSome && p.anchor.isNone then .error (.badRequest .spanWithoutAnchor)
  else if p.direction.isSome && p.cursor.isNone then .error (.badRequest .directionWithoutCursor)
  else if p.limit.isSome && p.anchor.isSome then .error (.badRequest .limitWithAnchor)
  else .ok ()

/-- The number of notes on each side of an anchor. -/
def validSpan (p : Parameters) : Except ListError Nat :=
  match p.span with
  | none => .ok defaultSpan
  | some n =>
    if 1 ≤ n ∧ n ≤ maxSpan then .ok n.toNat else .error (.badRequest (.spanOutOfRange n))

/-- The direction, by its name in any case. -/
def validDirection (p : Parameters) : Except ListError PageDirection :=
  match p.direction.map lowercase with
  | none => .ok .next
  | some s =>
    if s = "next" then .ok .next
    else if s = "prev" then .ok .prev
    else .error (.badRequest (.unknownDirection s))

/-- Read a cursor. -/
def validCursor (raw : String) (sort : SortBy) : Except ListError Cursor :=
  (Cursor.decode raw sort).mapError .invalidCursor

/-- Which page is asked for. -/
def validStart (p : Parameters) (sort : SortBy) : Except ListError PageStart :=
  match p.offset, p.anchor with
  | some n, _ =>
    if 0 ≤ n ∧ n ≤ maxOffset then .ok (.offset n.toNat)
    else .error (.badRequest (.offsetOutOfRange n))
  | none, some raw => do
    let span ← p.validSpan
    let anchor ← validCursor raw sort
    return .anchor anchor span
  | none, none => do
    let direction ← p.validDirection
    match p.cursor with
    | none => return .cursor none direction
    | some raw => return .cursor (some (← validCursor raw sort)) direction

/-- What to search for. -/
def validSearch (p : Parameters) : Except ListError (Option String) :=
  match p.search.map Text.trim with
  | none => .ok none
  | some s =>
    if s.isEmpty then .ok none
    else if maxSearchLength < s.length then .error (.badRequest .searchTooLong)
    else .ok (some s)

/-- The request that the parameters make, or the first fault in them. -/
def validate (p : Parameters) : Except ListError ListRequest := do
  let limit ← p.validLimit
  let sort ← p.validSort
  let order ← p.validOrder
  p.checkTogether
  let start ← p.validStart sort
  let search ← p.validSearch
  return { limit, start, search, color := p.color, sort, order }

end Parameters

end NotePager

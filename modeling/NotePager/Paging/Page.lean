import NotePager.Note.Json

/-!
# Pages

What a listing answers: some notes, the cursors of the pages next to them, and how many notes there
are in all. The place of the page is part of it only for the two ways to ask that know it.
-/

namespace NotePager

/-- How many notes there are. -/
structure Totals where
  /-- The notes that are selected. -/
  selected : Nat
  /-- The notes of the owner. -/
  owned : Nat
  deriving DecidableEq, Repr

/-- One page of a listing. -/
structure Page where
  notes : List Note
  next : Option String := none
  prev : Option String := none
  hasMore : Bool
  totals : Totals
  /-- How many selected notes come before the page, if it was asked for by offset. -/
  offset : Option Nat := none
  /-- How many notes the page holds, if it was asked for by offset. -/
  windowSize : Option Nat := none
  /-- How many selected notes come before the anchor, if there is one. -/
  anchorIndex : Option Nat := none
  deriving DecidableEq, Repr

namespace Page

open Json

/-- A count as JSON. -/
def count (n : Nat) : Json := .number n

/-- The page with its notes written in some way. -/
def jsonWith (noteJson : Note → Json) (p : Page) : Json :=
  .object ([("notes", Json.array (p.notes.map noteJson))]
    ++ optional "next_cursor" (p.next.map .text)
    ++ optional "prev_cursor" (p.prev.map .text)
    ++ [("has_more", .bool p.hasMore), ("total_count", count p.totals.selected),
      ("total_count_unfiltered", count p.totals.owned)]
    ++ optional "offset" (p.offset.map count)
    ++ optional "window_size" (p.windowSize.map count)
    ++ optional "anchor_index" (p.anchorIndex.map count))

/-- The page. -/
def json (p : Page) : Json := p.jsonWith Note.json

/-- The members of a page that have been read. -/
structure Parts where
  notes : Option (List Note) := none
  next : Option String := none
  prev : Option String := none
  hasMore : Option Bool := none
  selected : Option Nat := none
  owned : Option Nat := none
  offset : Option Nat := none
  windowSize : Option Nat := none
  anchorIndex : Option Nat := none

/-- The page, once the members that it needs have been read. -/
def Parts.page? (p : Parts) : Option Page := do
  return {
    notes := ← p.notes
    next := p.next
    prev := p.prev
    hasMore := ← p.hasMore
    totals := ⟨← p.selected, ← p.owned⟩
    offset := p.offset
    windowSize := p.windowSize
    anchorIndex := p.anchorIndex }

/-- A count of 64 bits. -/
def countReader : Reader Nat := Reader.natural UInt64.size

/-- A page. -/
def reader : Reader Page := Reader.record [
  .into "notes" (Reader.list Note.reader) fun v p => { p with notes := some v },
  .into "next_cursor" (Reader.nullable Reader.string) fun v p => { p with next := v },
  .into "prev_cursor" (Reader.nullable Reader.string) fun v p => { p with prev := v },
  .into "has_more" Reader.boolean fun v p => { p with hasMore := some v },
  .into "total_count" countReader fun v p => { p with selected := some v },
  .into "total_count_unfiltered" countReader fun v p => { p with owned := some v },
  .into "offset" (Reader.nullable countReader) fun v p => { p with offset := v },
  .into "window_size" (Reader.nullable countReader) fun v p => { p with windowSize := v },
  .into "anchor_index" (Reader.nullable countReader) fun v p => { p with anchorIndex := v }]
  {} Parts.page?

end Page

end NotePager

import NotePager.Query.Order
import NotePager.Query.Predicate

/-!
# Queries

A query asks for a window of the notes that pass a filter, in an order.
-/

namespace NotePager

/-- Which notes to fetch. -/
structure Query where
  filter : Filter
  /-- The order; without keys it is the order in which the notes are stored. -/
  sort : List SortKey := []
  /-- How many of the notes that pass to leave out at the front. -/
  skip : Nat := 0
  /-- How many notes to fetch at most. -/
  limit : Option Nat := none

end NotePager

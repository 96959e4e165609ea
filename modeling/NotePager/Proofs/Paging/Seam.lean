import NotePager.Proofs.Paging.Cursor
import NotePager.Proofs.Paging.Outcome
import NotePager.Proofs.Paging.Request

/-!
# Asking with the cursor of a listed note

`Listing.ask` is what parameters come to: they are validated, and the request that they make is
answered. A note of the listed ones cuts them into those before it and those after it. With its
cursor, the page after it is made of the ones (`Listing.ask_fromCursor`) and the page before it of
the others (`Listing.ask_beforeCursor`), which also come after it in the reversed order
(`Listing.ask_fromCursor_reversed`).
-/

namespace NotePager

open Position

namespace Store

variable {s : Store} {sel : Selection} {sort : SortBy} {order : SortOrder} {owner : Owner}
  {xs ys : List Note} {n : Note}

/-- `Store.place` of `Cursor.atNote` at a note of the owner is the note's position. -/
theorem place_atNote (hs : s.DistinctIds) (hn : n ∈ s.notes) (howner : n.owner = owner)
    (sort : SortBy) : s.place owner sort (.atNote n sort) = .ok (.ofNote n sort) := by
  -- Cursors without a title have to be looked up.
  have hfind := hs.find?_eq_some (q := (·.owner == owner)) hn (beq_iff_eq.2 howner)
  have hlookup : s.place owner sort (.note n.id) = .ok (.ofNote n sort) := by
    simp only [place, ofCursor?, Cursor.id, hfind]
  cases sort with
  | createdAt => exact hlookup
  | updatedAt => exact hlookup
  | title => rfl

/-- `rowsAfter` the position of a listed note are the listed notes behind it. -/
theorem rowsAfter_listed (hs : s.DistinctIds) (h : s.listed sel sort order = xs ++ n :: ys) :
    s.rowsAfter sel sort order (.ofNote n sort) = ys := by
  have hin : InOrder sort order (s.listed sel sort order) := listed_inOrder hs
  rw [rowsAfter_eq hs, h]
  exact (h ▸ hin).notesAfter_eq

/-- `rowsAfter` the position of a listed note in `order.reversed` are the listed notes in front of
it, reversed. -/
theorem rowsAfter_reversed_listed (hs : s.DistinctIds)
    (h : s.listed sel sort order = xs ++ n :: ys) :
    s.rowsAfter sel sort order.reversed (.ofNote n sort) = xs.reverse := by
  have hin : InOrder sort order (s.listed sel sort order) := listed_inOrder hs
  rw [rowsAfter_reversed_eq hs, h]
  exact congrArg List.reverse (h ▸ hin).notesBefore_eq

end Store

namespace Listing

/-- The answer to the owner for these parameters. -/
def ask (s : Store) (owner : Owner) (p : Parameters) : Except (Halt ListError) Page :=
  match p.validate with
  | .error e => .error (.failed e)
  | .ok r => answer s owner r

variable {s : Store} {owner : Owner} {p : Parameters} {r : ListRequest} {xs ys : List Note}
  {n : Note}

/-- `ask` with parameters that validate is `outcome` of the request. -/
theorem ask_eq (hp : p.validate = .ok r) :
    ask s owner p = (outcome s owner r).mapError .failed := by
  rw [ask, hp]
  exact answer_eq s owner r

/-- `ask` gives a page exactly when `validate` followed by `outcome` does. -/
theorem ask_eq_ok_iff {page : Page} :
    ask s owner p = .ok page ↔ p.validate.bind (outcome s owner) = .ok page := by
  rw [ask]
  cases p.validate with
  | error e => simp [Except.bind]
  | ok r => cases h : outcome s owner r <;> simp [answer_eq, h, Except.bind, Except.mapError]

/-- `ask` with the parameters of a first page is `pageFirst` of the listed notes. -/
theorem ask_first (hp : p.validate = .ok r) (hstart : r.start = .cursor none .next) :
    ask s owner p = .ok (pageFirst r.sort r.limit (s.totals (r.selection owner))
      (s.listed (r.selection owner) r.sort r.order)) := by
  rw [ask_eq hp, outcome, hstart]
  rfl

section
variable (hs : s.DistinctIds) (hp : p.validate = .ok r) (hstart : r.start = .cursor none .next)
  (hlisted : s.listed (r.selection owner) r.sort r.order = xs ++ n :: ys)
include hs hlisted

/-- `Store.place` of `Cursor.atNote` at the listed note `n` is its position. -/
theorem place_listed :
    s.place owner r.sort (.atNote n r.sort) = .ok (.ofNote n r.sort) := by
  have hn : n ∈ s.listed (r.selection owner) r.sort r.order := by simp [hlisted]
  obtain ⟨hmem, haccepts⟩ := Store.mem_listed.1 hn
  exact Store.place_atNote hs hmem (Selection.owner_of_accepts haccepts) r.sort

include hp hstart

/-- `ask` from the cursor of the listed note `n` on is `pageAfter` of the listed notes behind it. -/
theorem ask_fromCursor : ask s owner (p.fromCursor (Cursor.atNote n r.sort).encode)
    = .ok (pageAfter r.sort r.limit (s.totals (r.selection owner)) ys) := by
  have hvalid := Parameters.validate_fromCursor hp hstart (Cursor.decode_encode_atNote n r.sort)
  have hplace := place_listed hs hlisted
  have hrows := Store.rowsAfter_listed hs hlisted
  rw [ask_eq hvalid, outcome]
  simp only [hplace, Except.map, Except.mapError]
  exact congrArg (fun rows => Except.ok (pageAfter _ _ _ rows)) hrows

/-- `ask` before the cursor of the listed note `n` is `pageBefore` of the listed notes in front of
it. -/
theorem ask_beforeCursor : ask s owner (p.beforeCursor (Cursor.atNote n r.sort).encode)
    = .ok (pageBefore r.sort r.limit (s.totals (r.selection owner)) xs.reverse) := by
  have hvalid := Parameters.validate_beforeCursor hp hstart (Cursor.decode_encode_atNote n r.sort)
  have hplace := place_listed hs hlisted
  have hrows := Store.rowsAfter_reversed_listed hs hlisted
  rw [ask_eq hvalid, outcome]
  simp only [hplace, Except.map, Except.mapError]
  exact congrArg (fun rows => Except.ok (pageBefore _ _ _ rows)) hrows

/-- `ask` from the same cursor on in `order.reversed` is `pageAfter` of the listed notes in front of
it. -/
theorem ask_fromCursor_reversed :
    ask s owner
        ({ p with order := some r.order.reversed.name }.fromCursor (Cursor.atNote n r.sort).encode)
      = .ok (pageAfter r.sort r.limit (s.totals (r.selection owner)) xs.reverse) := by
  have hreversed : s.listed (r.selection owner) r.sort r.order.reversed
      = ys.reverse ++ n :: xs.reverse := by
    rw [Store.listed_reversed hs, hlisted]
    simp
  exact ask_fromCursor (r := { r with order := r.order.reversed }) hs
    (Parameters.validate_order hp _) hstart hreversed

end

end Listing

end NotePager

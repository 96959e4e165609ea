import NotePager.Paging.Listing
import NotePager.Proofs.Paging.Listed
import NotePager.Proofs.Store.Quiet

/-!
# What a listing comes to

`Listing.outcome` is what a listing comes to by the notes of the store alone: no connection, no
calls and no filters. Fetching ends with just this when no call meets a fault and the caller waits
(`Listing.ends_fetch`), so `Listing.answer`, the answer on a fresh connection, is this outcome
(`Listing.answer_eq`). When no two notes share an identifier, the rows beside a position are cut out
of the listed notes (`Store.rowsAfter_eq`, `Store.rowsAfter_reversed_eq`).
-/

namespace NotePager

open Position

/-! ## Rows and places -/

namespace Store

/-- How many notes are selected, and how many are the owner's. -/
def totals (s : Store) (sel : Selection) : Totals :=
  ⟨s.notes.countP sel.accepts, s.notes.countP (·.owner == sel.owner)⟩

/-- The selected notes that come after a position, in the order of the listing. -/
def rowsAfter (s : Store) (sel : Selection) (sort : SortBy) (order : SortOrder) (p : Position) :
    List Note :=
  s.select (sort.keys order) fun n => sel.accepts n && decide (Precedes order p (.ofNote n sort))

/-- The place that a cursor marks: the one it carries, or that of the owner's note it names. -/
def place (s : Store) (owner : Owner) (sort : SortBy) (cursor : Cursor) :
    Except ListError Position :=
  match Position.ofCursor? cursor with
  | some p => .ok p
  | none =>
    match s.notes.find? fun n => n.owner == owner && n.id == cursor.id with
    | none => .error (.notFound (.cursorNote cursor.id))
    | some n => .ok (.ofNote n sort)

variable {s : Store} {sel : Selection} {sort : SortBy} {order : SortOrder} {p : Position}

/-- With distinct identifiers, `rowsAfter` are the `notesAfter` of the listed notes. -/
theorem rowsAfter_eq (hs : s.DistinctIds) :
    s.rowsAfter sel sort order p = notesAfter sort order p (s.listed sel sort order) :=
  select_and hs sel.accepts _

/-- With distinct identifiers, `rowsAfter` for `order.reversed` are the `notesBefore` of the listed
notes, reversed. -/
theorem rowsAfter_reversed_eq (hs : s.DistinctIds) :
    s.rowsAfter sel sort order.reversed p
      = (notesBefore sort order p (s.listed sel sort order)).reverse := by
  rw [rowsAfter_eq hs, listed_reversed hs]
  simp only [notesAfter, notesBefore, precedes_reversed, List.filter_reverse]

end Store

namespace Listing

open Access

/-! ## Pages made of rows -/

/-- The page at the front of the rows after a position. -/
def pageAfter (sort : SortBy) (limit : Nat) (totals : Totals) (rows : List Note) : Page where
  notes := rows.take limit
  hasMore := limit < rows.length
  totals
  prev := cursorAt sort (rows.take limit).head?
  next := if limit < rows.length then cursorAt sort (rows.take limit).getLast? else none

/-- The page at the front of the rows before a position, which are read backwards. -/
def pageBefore (sort : SortBy) (limit : Nat) (totals : Totals) (rows : List Note) : Page where
  notes := (rows.take limit).reverse
  hasMore := limit < rows.length
  totals
  prev := if limit < rows.length then cursorAt sort (rows.take limit).reverse.head? else none
  next := cursorAt sort (rows.take limit).reverse.getLast?

/-- The first page of the rows, before which nothing lies. -/
def pageFirst (sort : SortBy) (limit : Nat) (totals : Totals) (rows : List Note) : Page :=
  { pageAfter sort limit totals rows with prev := none }

/-- The page behind the first `offset` rows. -/
def pageBehind (limit offset : Nat) (totals : Totals) (rows : List Note) : Page where
  notes := (rows.drop offset).take limit
  totals
  hasMore := offset + ((rows.drop offset).take limit).length < totals.selected
  offset := some offset
  windowSize := some ((rows.drop offset).take limit).length

/-- The window around a note, out of the rows before it, which are read backwards, and the rows
after it. -/
def pageAround (sort : SortBy) (span : Nat) (totals : Totals) (before : List Note) (n : Note)
    (after : List Note) : Page where
  notes := (before.take span).reverse ++ n :: after.take span
  totals
  hasMore := decide (span < before.length) || decide (span < after.length)
  prev := if span < before.length then
    cursorAt sort ((before.take span).reverse ++ n :: after.take span).head? else none
  next := if span < after.length then
    cursorAt sort ((before.take span).reverse ++ n :: after.take span).getLast? else none
  anchorIndex := some before.length

/-- What a listing comes to when no call meets a fault and the caller waits. -/
def outcome (s : Store) (owner : Owner) (r : ListRequest) : Except ListError Page :=
  let sel := r.selection owner
  match r.start with
  | .cursor none _ =>
    .ok (pageFirst r.sort r.limit (s.totals sel) (s.listed sel r.sort r.order))
  | .cursor (some cursor) .next => (s.place owner r.sort cursor).map fun p =>
    pageAfter r.sort r.limit (s.totals sel) (s.rowsAfter sel r.sort r.order p)
  | .cursor (some cursor) .prev => (s.place owner r.sort cursor).map fun p =>
    pageBefore r.sort r.limit (s.totals sel) (s.rowsAfter sel r.sort r.order.reversed p)
  | .offset offset =>
    if (s.totals sel).selected ≤ offset ∧ (0 < (s.totals sel).selected ∨ 0 < offset) then
      .error (.offsetBeyondTotal offset (s.totals sel).selected)
    else .ok (pageBehind r.limit offset (s.totals sel) (s.listed sel r.sort r.order))
  | .anchor anchor span =>
    match s.notes.find? fun n => sel.accepts n && n.id == anchor.id with
    | none => .error (.notFound (.anchorNote anchor.id))
    | some n => .ok (pageAround r.sort span (s.totals sel)
      (s.rowsAfter sel r.sort r.order.reversed (.ofNote n r.sort)) n
      (s.rowsAfter sel r.sort r.order (.ofNote n r.sort)))

/-- The ways in which a listing comes to a page. -/
inductive ComesTo (s : Store) (owner : Owner) (r : ListRequest) : Page → Prop
  | first {direction : PageDirection} (start : r.start = .cursor none direction) :
    ComesTo s owner r (pageFirst r.sort r.limit (s.totals (r.selection owner))
      (s.listed (r.selection owner) r.sort r.order))
  | after {cursor : Cursor} {p : Position} (start : r.start = .cursor (some cursor) .next)
    (place : s.place owner r.sort cursor = .ok p) :
    ComesTo s owner r (pageAfter r.sort r.limit (s.totals (r.selection owner))
      (s.rowsAfter (r.selection owner) r.sort r.order p))
  | before {cursor : Cursor} {p : Position} (start : r.start = .cursor (some cursor) .prev)
    (place : s.place owner r.sort cursor = .ok p) :
    ComesTo s owner r (pageBefore r.sort r.limit (s.totals (r.selection owner))
      (s.rowsAfter (r.selection owner) r.sort r.order.reversed p))
  | behind {offset : Nat} (start : r.start = .offset offset)
    (within : ¬ ((s.totals (r.selection owner)).selected ≤ offset
      ∧ (0 < (s.totals (r.selection owner)).selected ∨ 0 < offset))) :
    ComesTo s owner r (pageBehind r.limit offset (s.totals (r.selection owner))
      (s.listed (r.selection owner) r.sort r.order))
  | around {anchor : Cursor} {span : Nat} {n : Note} (start : r.start = .anchor anchor span)
    (found : s.notes.find? (fun n => (r.selection owner).accepts n && n.id == anchor.id) = some n) :
    ComesTo s owner r (pageAround r.sort span (s.totals (r.selection owner))
      (s.rowsAfter (r.selection owner) r.sort r.order.reversed (.ofNote n r.sort)) n
      (s.rowsAfter (r.selection owner) r.sort r.order (.ofNote n r.sort)))

section
variable {s : Store} {owner : Owner} {r : ListRequest} {page : Page}

/-- `ComesTo` covers every page that `outcome` gives. -/
theorem comesTo_of_outcome (h : outcome s owner r = .ok page) : ComesTo s owner r page := by
  simp only [outcome] at h
  split at h
  · cases h
    exact .first ‹_›
  · cases hplace : s.place owner r.sort _ <;> rw [hplace] at h <;> cases h
    exact .after ‹_› hplace
  · cases hplace : s.place owner r.sort _ <;> rw [hplace] at h <;> cases h
    exact .before ‹_› hplace
  · split at h <;> cases h
    exact .behind ‹_› ‹_›
  · split at h <;> cases h
    exact .around ‹_› ‹_›

/-- Every page that `outcome` gives carries `Store.totals` of the request's selection. -/
theorem totals_of_outcome (h : outcome s owner r = .ok page) :
    page.totals = s.totals (r.selection owner) := by
  cases comesTo_of_outcome h <;> rfl

end

/-! ## Fetching -/

section
variable {s : Store} {sel : Selection} {sort : SortBy} {order : SortOrder} {limit : Nat}

/-- `guarded` ends with what its call ends with. -/
theorem ends_guarded {call : Access StoreError α} {a : α} (mode : PageMode)
    (operation : StoreOperation) (h : Ends call s (.ok a) s) :
    Ends (guarded mode operation call) s (.ok a) s := by
  intro c hc hs
  obtain ⟨c₁, hc₁, hs₁, he₁⟩ := h.mapError (ListError.store mode) c hc hs
  exact ⟨c₁, hc₁, hs₁, by simp only [guarded, hc.cancelled, he₁, Except.mapError]; rfl⟩

/-- `Listing.totals` ends with `Store.totals`. -/
theorem ends_totals (mode : PageMode) (sel : Selection) :
    Ends (totals mode sel) s (.ok (s.totals sel)) s := by
  have hsel := ends_guarded mode .count (s := s) (.count sel.compile_filter)
  have howned := ends_guarded mode .count (s := s) (.count (Filter.compile_ownedBy sel.owner))
  by_cases hn : sel.isNarrowed
  · simp only [totals, hn, if_true]
    exact .bind (hsel.both howned) (.pure _)
  · -- Nothing but the owner is asked for, so one count tells both.
    have haccepts : sel.accepts = fun n => n.owner == sel.owner := by
      simp only [Selection.isNarrowed, Bool.or_eq_true, not_or, Option.not_isSome_iff_eq_none] at hn
      exact funext fun n => by simp [Selection.accepts, hn.1, hn.2]
    have htotals : s.totals sel = ⟨s.notes.countP sel.accepts, s.notes.countP sel.accepts⟩ := by
      rw [Store.totals, haccepts]
    simp only [totals, hn, htotals]
    exact .bind hsel (.pure _)

/-- The query for a page ends with one row more than the page holds. -/
theorem ends_queryFirst {f : Filter} {p : Predicate} (mode : PageMode) (h : f.compile = .ok p) :
    Ends (guarded mode .find (.find (queryFirst f sort order (limit + 1)))) s
      (.ok ((s.select (sort.keys order) p).take (limit + 1))) s :=
  ends_guarded mode .find (.find (q := queryFirst f sort order (limit + 1)) h)

/-- `splitExtra` of one row more than the page holds is the page and whether there is that row. -/
theorem splitExtra_take (limit : Nat) (rows : List Note) :
    splitExtra limit (rows.take (limit + 1)) = (rows.take limit, decide (limit < rows.length)) := by
  rw [splitExtra, List.take_take, Nat.min_eq_left (Nat.le_succ limit), List.length_take]
  congr 1
  rw [decide_eq_decide]
  omega

/-- `Selection.filter` and `Filter.after` compile to the selected notes after the position. -/
theorem compile_filter_after (sel : Selection) (sort : SortBy) (order : SortOrder) (p : Position) :
    (sel.filter.and (.after sort order p)).compile
      = .ok fun n => sel.accepts n && decide (Precedes order p (.ofNote n sort)) :=
  Filter.compile_and sel.compile_filter (Filter.compile_after sort order p)

/-- `Selection.filter` and the filter for an identifier compile to the selected note with it. -/
theorem compile_filter_id (sel : Selection) (id : NoteId) :
    (sel.filter.and (.equal .id (.id id))).compile = .ok fun n => sel.accepts n && n.id == id := by
  rw [Filter.compile_and sel.compile_filter (Filter.compile_equal _ _)]
  refine congrArg Except.ok (funext fun n => ?_)
  simp [Note.value, Bool.beq_eq_decide_eq]

/-- `firstPage` ends with `pageFirst` of the listed notes. -/
theorem ends_firstPage : Ends (firstPage sel sort order limit) s
    (.ok (pageFirst sort limit (s.totals sel) (s.listed sel sort order))) s := by
  refine .bind ((ends_totals .cursor sel).both (ends_queryFirst .cursor sel.compile_filter)) ?_
  simp only [splitExtra_take, decide_eq_true_eq]
  exact .pure _

/-- `resolve` ends with `Store.place`. -/
theorem ends_resolve (sel : Selection) (sort : SortBy) (cursor : Cursor) :
    Ends (resolve sel sort cursor) s (s.place sel.owner sort cursor) s := by
  cases hc : Position.ofCursor? cursor with
  | some p =>
    simp only [resolve, Store.place, hc]
    exact .pure p
  | none =>
    simp only [resolve, Store.place, hc]
    refine .bind (ends_guarded .cursor .findOne
      (.findOne (Filter.compile_ownedNote sel.owner cursor.id))) ?_
    cases s.notes.find? fun n => n.owner == sel.owner && n.id == cursor.id with
    | none => exact .fail _
    | some n => exact .pure _

/-- `cursorPage` with the direction `.next` ends with `pageAfter` of the rows after the cursor's
place. -/
theorem ends_cursorPage_next (cursor : Cursor) :
    Ends (cursorPage sel sort order limit cursor .next) s
      ((s.place sel.owner sort cursor).map fun p =>
        pageAfter sort limit (s.totals sel) (s.rowsAfter sel sort order p)) s := by
  have hplace := ends_resolve (s := s) sel sort cursor
  cases hp : s.place sel.owner sort cursor with
  | error e => exact .bind_error ((ends_totals .cursor sel).both_error (hp ▸ hplace))
  | ok p =>
    refine .bind ((ends_totals .cursor sel).both (hp ▸ hplace)) ?_
    refine .bind (ends_queryFirst .cursor (compile_filter_after sel sort order p)) ?_
    simp only [splitExtra_take, decide_eq_true_eq]
    exact .pure _

/-- `cursorPage` with the direction `.prev` ends with `pageBefore` of the rows before the cursor's
place. -/
theorem ends_cursorPage_prev (cursor : Cursor) :
    Ends (cursorPage sel sort order limit cursor .prev) s
      ((s.place sel.owner sort cursor).map fun p =>
        pageBefore sort limit (s.totals sel) (s.rowsAfter sel sort order.reversed p)) s := by
  have hplace := ends_resolve (s := s) sel sort cursor
  cases hp : s.place sel.owner sort cursor with
  | error e => exact .bind_error ((ends_totals .cursor sel).both_error (hp ▸ hplace))
  | ok p =>
    refine .bind ((ends_totals .cursor sel).both (hp ▸ hplace)) ?_
    refine .bind (ends_queryFirst .cursor (compile_filter_after sel sort order.reversed p)) ?_
    simp only [splitExtra_take, decide_eq_true_eq]
    exact .pure _

/-- `offsetPage` ends with `offsetBeyondTotal` when the offset lies beyond the selected notes, and
with `pageBehind` otherwise. -/
theorem ends_offsetPage (offset : Nat) :
    Ends (offsetPage sel sort order limit offset) s
      (if (s.totals sel).selected ≤ offset ∧ (0 < (s.totals sel).selected ∨ 0 < offset) then
        .error (.offsetBeyondTotal offset (s.totals sel).selected)
      else .ok (pageBehind limit offset (s.totals sel) (s.listed sel sort order))) s := by
  refine .bind (ends_totals .offset sel) ?_
  by_cases h : (s.totals sel).selected ≤ offset ∧ (0 < (s.totals sel).selected ∨ 0 < offset)
  · simp only [h]
    exact .bind_error (.fail _)
  · simp only [h, if_false]
    exact .bind (ends_guarded .offset .find (.find
      (q := ⟨sel.filter, sort.keys order, offset, some limit⟩) sel.compile_filter)) (.pure _)

/-- `anchorWindow` ends with `pageAround` the anchor when it is a selected note, and with `notFound`
otherwise. -/
theorem ends_anchorWindow (anchor : Cursor) (span : Nat) :
    Ends (anchorWindow sel sort order anchor span) s
      (match s.notes.find? fun n => sel.accepts n && n.id == anchor.id with
        | none => .error (.notFound (.anchorNote anchor.id))
        | some n => .ok (pageAround sort span (s.totals sel)
          (s.rowsAfter sel sort order.reversed (.ofNote n sort)) n
          (s.rowsAfter sel sort order (.ofNote n sort)))) s := by
  have hfind := ends_guarded .anchor .findOne (s := s) (.findOne (compile_filter_id sel anchor.id))
  cases hn : s.notes.find? fun n => sel.accepts n && n.id == anchor.id with
  | none =>
    rw [hn] at hfind
    exact .bind hfind (.fail _)
  | some n =>
    rw [hn] at hfind
    have hbefore := compile_filter_after sel sort order.reversed (.ofNote n sort)
    have hafter := compile_filter_after sel sort order (.ofNote n sort)
    -- The index counts the rows that are read backwards, all of them.
    have hindex : s.notes.countP (fun m => sel.accepts m
          && decide (Precedes order.reversed (.ofNote n sort) (.ofNote m sort)))
        = (s.rowsAfter sel sort order.reversed (.ofNote n sort)).length := by
      rw [Store.rowsAfter, (s.select_perm _ _).length_eq, List.countP_eq_length_filter]
    have hcount := ends_guarded .anchor .count (s := s) (.count hbefore)
    rw [hindex] at hcount
    refine .bind hfind (.bind (hcount.both ((ends_totals .anchor sel).both
      ((ends_queryFirst .anchor hbefore).both (ends_queryFirst .anchor hafter)))) ?_)
    simp only [splitExtra_take, decide_eq_true_eq]
    exact .pure _

/-- `fetch` ends with `outcome`. -/
theorem ends_fetch (s : Store) (owner : Owner) (r : ListRequest) :
    Ends (fetch owner r) s (outcome s owner r) s := by
  cases hr : r.start with
  | cursor cursor direction =>
    cases cursor with
    | none =>
      simp only [fetch, outcome, hr]
      exact ends_firstPage
    | some cursor =>
      simp only [fetch, outcome, hr]
      cases direction with
      | next => exact ends_cursorPage_next cursor
      | prev => exact ends_cursorPage_prev cursor
  | offset offset =>
    simp only [fetch, outcome, hr]
    exact ends_offsetPage offset
  | anchor anchor span =>
    simp only [fetch, outcome, hr]
    exact ends_anchorWindow anchor span

end

/-- What a listing answers on a fresh connection to the store. -/
def answer (s : Store) (owner : Owner) (r : ListRequest) : Except (Halt ListError) Page :=
  ((fetch owner r).on s).1

/-- `answer` is `outcome`: a fresh connection never waits and meets no fault. -/
theorem answer_eq (s : Store) (owner : Owner) (r : ListRequest) :
    answer s owner r = (outcome s owner r).mapError .failed := by
  rw [answer, (ends_fetch s owner r).on_eq]

/-- `ComesTo` covers every page that `answer` gives. -/
theorem comesTo_of_answer {s : Store} {owner : Owner} {r : ListRequest} {page : Page}
    (h : answer s owner r = .ok page) : ComesTo s owner r page := by
  refine comesTo_of_outcome ?_
  cases houtcome : outcome s owner r <;> simp_all [answer_eq, Except.mapError]

end Listing

end NotePager

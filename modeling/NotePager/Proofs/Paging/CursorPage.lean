import NotePager.Proofs.Paging.ModeChange

/-!
# Pages next to a cursor

A cursor marks a position (`Cursor.Marks`): the place of the owner's note that it names, or the one
that it carries in itself. Only the former can be missing (`Store.place_eq_error_iff`). No note has
to stand at the position, nor does a note that stands there have to be listed, since a note may have
been renamed or deleted since, and a filter may leave it out. The position cuts the listed notes in
two all the same, and a page next to the cursor is taken from one of the two parts, from the end
that is next to the position (`Listing.answer_after`, `Listing.answer_before`). Looking back from a
cursor is looking forward in the reversed order, with the page turned round
(`Listing.answer_reversed`).
-/

namespace NotePager

/-! ## Marked positions -/

/-- The cursor marks the position for the owner: that of the owner's note with its identifier as it
is now, whether a listing selects the note or not, or else the title and the identifier that the
cursor carries, whether a note has them or not. -/
inductive Cursor.Marks (s : Store) (owner : Owner) (sort : SortBy) : Cursor → Position → Prop
  | note (hn : n ∈ s.notes) (howner : n.owner = owner) :
    Marks s owner sort (.note n.id) ⟨n.value sort.field, n.id⟩
  | titled (title : String) (id : NoteId) : Marks s owner sort (.titled title id) ⟨.text title, id⟩

namespace Store

variable {s : Store} {owner : Owner} {sort : SortBy} {cursor : Cursor} {p : Position}
  {e : ListError}

/-- `Store.place` of a cursor is the position that it `Marks`, if identifiers are distinct. -/
theorem place_of_marks (hs : s.DistinctIds) (h : cursor.Marks s owner sort p) :
    s.place owner sort cursor = .ok p := by
  cases h with
  | note hn howner =>
    have hfind := hs.find?_eq_some (q := (·.owner == owner)) hn (beq_iff_eq.2 howner)
    simp only [place, Position.ofCursor?, Cursor.id, hfind]
    rfl
  | titled title id => rfl

/-- A cursor `Marks` its `Store.place`. -/
theorem marks_of_place (h : s.place owner sort cursor = .ok p) : cursor.Marks s owner sort p := by
  cases cursor with
  | titled title id =>
    cases h
    exact .titled title id
  | note id =>
    simp only [place, Position.ofCursor?] at h
    split at h
    · cases h
    · rename_i n hn
      have hfound := List.find?_some hn
      simp only [Cursor.id, Bool.and_eq_true, beq_iff_eq] at hfound
      cases h
      rw [← hfound.2]
      exact .note (List.mem_of_find?_eq_some hn) hfound.1

/-- `Store.place` is an error exactly for a `Cursor.note` whose note is not the owner's, and then it
is `notFound`. -/
theorem place_eq_error_iff : s.place owner sort cursor = .error e
    ↔ ∃ id, cursor = .note id ∧ (∀ n ∈ s.notes, n.owner = owner → n.id ≠ id)
      ∧ e = .notFound (.cursorNote id) := by
  cases cursor with
  | titled title id => simp [place, Position.ofCursor?]
  | note id =>
    have hmissing : (s.notes.find? fun n => n.owner == owner && n.id == id) = none
        ↔ ∀ n ∈ s.notes, n.owner = owner → n.id ≠ id := by
      simp [List.find?_eq_none]
    simp only [place, Position.ofCursor?, Cursor.id]
    cases hfind : s.notes.find? fun n => n.owner == owner && n.id == id with
    | none =>
      have hnone := hmissing.1 hfind
      simpa [eq_comm] using fun _ => hnone
    | some n =>
      have hsome := mt hmissing.2 (by simp [hfind])
      simpa using fun hnone => absurd hnone hsome

end Store

/-! ## Beside a position -/

/-- The page with everything the other way round. -/
def Page.turned (page : Page) : Page :=
  { page with notes := page.notes.reverse, next := page.prev, prev := page.next }

namespace Listing

variable {s : Store} {owner : Owner} {r : ListRequest} {cursor : Cursor} {p : Position}

/-- `pageBefore` is `pageAfter` of the same rows, `turned`. -/
theorem pageBefore_eq_turned (sort : SortBy) (limit : Nat) (totals : Totals) (rows : List Note) :
    pageBefore sort limit totals rows = (pageAfter sort limit totals rows).turned := by
  simp only [pageBefore, pageAfter, Page.turned, List.head?_reverse, List.getLast?_reverse]

/-- `Listing.answer` after a cursor that `Marks` a position is `pageAfter` of `notesAfter` the
position. -/
theorem answer_after (hs : s.DistinctIds) (hmarks : cursor.Marks s owner r.sort p) :
    answer s owner { r with start := .cursor (some cursor) .next }
      = .ok (pageAfter r.sort r.limit (s.totals (r.selection owner))
        (notesAfter r.sort r.order p (s.listed (r.selection owner) r.sort r.order))) := by
  rw [answer_eq, outcome]
  simp only [Store.place_of_marks hs hmarks, Store.rowsAfter_eq hs, Except.map, Except.mapError]
  rfl

/-- `Listing.answer` before a cursor that `Marks` a position is `pageBefore` of `notesBefore` the
position, read backwards. -/
theorem answer_before (hs : s.DistinctIds) (hmarks : cursor.Marks s owner r.sort p) :
    answer s owner { r with start := .cursor (some cursor) .prev }
      = .ok (pageBefore r.sort r.limit (s.totals (r.selection owner))
        (notesBefore r.sort r.order p (s.listed (r.selection owner) r.sort r.order)).reverse) := by
  rw [answer_eq, outcome]
  simp only [Store.place_of_marks hs hmarks, Store.rowsAfter_reversed_eq hs, Except.map,
    Except.mapError]
  rfl

/-- `Listing.answer` before a cursor is that after it in the reversed order, `turned`. -/
theorem answer_reversed (s : Store) (owner : Owner) (r : ListRequest) (cursor : Cursor) :
    answer s owner { r with start := .cursor (some cursor) .prev }
      = (answer s owner
        { r with order := r.order.reversed, start := .cursor (some cursor) .next }).map
          Page.turned := by
  rw [answer_eq, answer_eq, outcome, outcome]
  cases hplace : s.place owner r.sort cursor with
  | error e => simp only [hplace, Except.map, Except.mapError]
  | ok p =>
    simp only [hplace, Except.map, Except.mapError, ← pageBefore_eq_turned]
    rfl

/-- `Listing.answer` next to a cursor is `notFound` exactly when `Store.place` is. -/
theorem answer_notFound_iff {direction : PageDirection} {what : Missing} :
    answer s owner { r with start := .cursor (some cursor) direction }
        = .error (.failed (.notFound what))
      ↔ ∃ id, cursor = .note id ∧ (∀ n ∈ s.notes, n.owner = owner → n.id ≠ id)
        ∧ what = .cursorNote id := by
  have hplace : answer s owner { r with start := .cursor (some cursor) direction }
        = .error (.failed (.notFound what))
      ↔ s.place owner r.sort cursor = .error (.notFound what) := by
    rw [answer_eq, outcome]
    cases hp : s.place owner r.sort cursor with
    | error e => cases direction <;> simp [hp, Except.map, Except.mapError]
    | ok p => cases direction <;> simp [hp, Except.map, Except.mapError]
  rw [hplace, Store.place_eq_error_iff]
  simp only [ListError.notFound.injEq]

/-- `Listing.answer` next to a cursor, by the listed notes and the position that the cursor `Marks`.
It is `notFound` exactly when the cursor names a note that the owner does not have. The page after
the cursor holds the first of `notesAfter` the position, and the page before it the last of
`notesBefore`, in the order of the listing; `hasMore` holds if there are more on that side. Before a
cursor it is the same error, or the page of the reversed order after the cursor `turned`: its notes
the other way round and its cursors exchanged. -/
theorem answer_cursor_exact (hs : s.DistinctIds) (owner : Owner) (r : ListRequest)
    (cursor : Cursor) :
    ∃ listed : List Note, listed.Perm (s.notes.filter (r.selection owner).accepts)
      ∧ InOrder r.sort r.order listed
      ∧ (∀ direction, (∃ what, answer s owner { r with start := .cursor (some cursor) direction }
          = .error (.failed (.notFound what)))
        ↔ ∃ id, cursor = .note id ∧ ∀ n ∈ s.notes, n.owner = owner → n.id ≠ id)
      ∧ (∀ p, cursor.Marks s owner r.sort p →
        (∃ page, answer s owner { r with start := .cursor (some cursor) .next } = .ok page
          ∧ page.notes = (notesAfter r.sort r.order p listed).take r.limit
          ∧ (page.hasMore = true ↔ r.limit < (notesAfter r.sort r.order p listed).length))
        ∧ ∃ page, answer s owner { r with start := .cursor (some cursor) .prev } = .ok page
          ∧ page.notes = (notesBefore r.sort r.order p listed).drop
            ((notesBefore r.sort r.order p listed).length - r.limit)
          ∧ (page.hasMore = true ↔ r.limit < (notesBefore r.sort r.order p listed).length))
      ∧ answer s owner { r with start := .cursor (some cursor) .prev }
        = (answer s owner
          { r with order := r.order.reversed, start := .cursor (some cursor) .next }).map
            Page.turned := by
  refine ⟨s.listed (r.selection owner) r.sort r.order, s.select_perm _ _, Store.listed_inOrder hs,
    fun direction => ⟨?_, ?_⟩, fun p hmarks => ⟨?_, ?_⟩, answer_reversed s owner r cursor⟩
  · rintro ⟨what, hwhat⟩
    obtain ⟨id, hid, hmissing, -⟩ := answer_notFound_iff.1 hwhat
    exact ⟨id, hid, hmissing⟩
  · rintro ⟨id, hid, hmissing⟩
    exact ⟨_, answer_notFound_iff.2 ⟨id, hid, hmissing, rfl⟩⟩
  · refine ⟨_, answer_after hs hmarks, rfl, ?_⟩
    simp only [pageAfter, decide_eq_true_eq]
  · refine ⟨_, answer_before hs hmarks, reverse_take_reverse _ _, ?_⟩
    simp only [pageBefore, decide_eq_true_eq, List.length_reverse]

/-- `answer_cursor_exact` for `teaStore` and a cursor at a title that no note has, behind all notes
of the owner `ann`: the last two of them come before it, and there is one more. The cursor of the
note of `ben` is `notFound` for `ann`. -/
theorem answer_cursor_exact_teaStore :
    (∃ page, answer teaStore ⟨"ann"⟩
        { teaRequest with start := .cursor (some (.titled "Soup" ⟨7⟩)) .prev } = .ok page
      ∧ page.notes = [teaNote 2 "ann", teaNote 1 "ann"] ∧ page.hasMore = true)
    ∧ ∃ what, answer teaStore ⟨"ann"⟩ { teaRequest with start := .cursor (some (.note ⟨9⟩)) .next }
      = .error (.failed (.notFound what)) := by
  have hs : teaStore.DistinctIds := by decide
  constructor
  · obtain ⟨listed, hperm, horder, -, hpages, -⟩ :=
      answer_cursor_exact hs ⟨"ann"⟩ teaRequest (.titled "Soup" ⟨7⟩)
    have hlisted : listed = [teaNote 3 "ann", teaNote 2 "ann", teaNote 1 "ann"] :=
      horder.eq_of_perm (by decide) (hperm.trans (by decide))
    subst hlisted
    obtain ⟨-, page, hpage, hnotes, hmore⟩ := hpages _ (.titled "Soup" ⟨7⟩)
    exact ⟨page, hpage, hnotes.trans (by decide), hmore.2 (by decide)⟩
  · obtain ⟨-, -, -, hmissing, -⟩ := answer_cursor_exact hs ⟨"ann"⟩ teaRequest (.note ⟨9⟩)
    exact (hmissing .next).2 ⟨⟨9⟩, rfl, by decide⟩

end Listing

end NotePager

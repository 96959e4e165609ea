import NotePager.Proofs.Paging.CursorPage

/-!
# The way back from a page

A page offers a cursor back to the notes before it. Where a page is asked for without a cursor,
before a cursor or around an anchor, the cursor is there exactly if there are such notes. After a
cursor it is there on every page that has notes, as if the note of the cursor came before the page.
But that note need not be selected (`Listing.FromOutside`), and then the page may be the first one:
its cursor leads back to an empty page (`Listing.answer_prev_exact`).
-/

namespace NotePager

open Position

/-! ## Cutting a list in order -/

/-- Notes that are `InOrder` are cut by a property that passes on to notes further on: first those
without it, then those with it. -/
theorem InOrder.cut {sort : SortBy} {order : SortOrder} {notes : List Note}
    (h : InOrder sort order notes) {q : Note → Bool}
    (hq : ∀ a b, Precedes order (.ofNote a sort) (.ofNote b sort) → q a = true → q b = true) :
    notes = notes.filter (!q ·) ++ notes.filter q := by
  induction notes with
  | nil => rfl
  | cons n notes ih =>
    obtain ⟨hn, hnotes⟩ := List.pairwise_cons.1 (List.pairwise_map.1 h)
    have hrest := ih (List.pairwise_map.2 hnotes)
    cases hqn : q n with
    | false =>
      rw [List.filter_cons_of_pos (by simp [hqn]), List.filter_cons_of_neg (by simp [hqn]),
        List.cons_append, ← hrest]
    | true =>
      -- All that follow the first note have the property as well.
      have hall : ∀ m ∈ n :: notes, q m = true :=
        List.forall_mem_cons.2 ⟨hqn, fun m hm => hq n m (hn m hm) hqn⟩
      have hnone : (n :: notes).filter (!q ·) = [] :=
        List.filter_eq_nil_iff.2 fun m hm => by simp [hall m hm]
      rw [hnone, List.filter_eq_self.2 hall, List.nil_append]

section
variable {sort : SortBy} {order : SortOrder} {notes : List Note} (h : InOrder sort order notes)
include h

/-- Notes that are `InOrder` end with `notesAfter` a position. -/
theorem InOrder.cut_after (p : Position) :
    notes = notes.filter (fun n => !decide (Precedes order p (.ofNote n sort)))
      ++ notesAfter sort order p notes :=
  h.cut fun _ _ hab ha => decide_eq_true ((of_decide_eq_true ha).trans hab)

/-- Notes that are `InOrder` begin with `notesBefore` a position. -/
theorem InOrder.cut_before (p : Position) :
    ∃ rest, notes = notesBefore sort order p notes ++ rest := by
  have hup : ∀ a b, Precedes order (.ofNote a sort) (.ofNote b sort) →
      (!decide (Precedes order (.ofNote a sort) p)) = true →
      (!decide (Precedes order (.ofNote b sort) p)) = true := by
    intro a b hab ha
    simp only [Bool.not_eq_true', decide_eq_false_iff_not] at ha ⊢
    exact fun hb => ha (hab.trans hb)
  have hcut := h.cut hup
  simp only [Bool.not_not] at hcut
  exact ⟨_, hcut⟩

end

/-- The page is asked for after a cursor. -/
def PageStart.isAfterCursor : PageStart → Bool
  | cursor (some _) .next => true
  | _ => false

namespace Listing

variable {s : Store} {owner : Owner} {r : ListRequest} {page : Page} {front back : List Note}

/-! ## What comes before a page -/

/-- No selected note comes before the first note of the page. -/
def IsFirst (s : Store) (owner : Owner) (r : ListRequest) (page : Page) : Prop :=
  ∀ first ∈ page.notes.head?, ∀ n ∈ s.notes, (r.selection owner).accepts n = true →
    ¬ Precedes r.order (.ofNote n r.sort) (.ofNote first r.sort)

/-- The page is asked for after a cursor, and all selected notes come after the position that the
cursor marks. -/
def FromOutside (s : Store) (owner : Owner) (r : ListRequest) : Prop :=
  ∃ cursor p, r.start = .cursor (some cursor) .next ∧ cursor.Marks s owner r.sort p
    ∧ ∀ n ∈ s.notes, (r.selection owner).accepts n = true →
      Precedes r.order p (.ofNote n r.sort)

/-- A page with notes, which are a piece of `Store.listed`, `IsFirst` exactly when nothing is listed
in front of the piece. -/
theorem isFirst_iff (hs : s.DistinctIds)
    (hcut : s.listed (r.selection owner) r.sort r.order = front ++ page.notes ++ back)
    (hnotes : page.notes ≠ []) : IsFirst s owner r page ↔ front = [] := by
  have horder : InOrder r.sort r.order (s.listed (r.selection owner) r.sort r.order) :=
    Store.listed_inOrder hs
  obtain ⟨first, rest, hfirst⟩ := List.exists_cons_of_ne_nil hnotes
  rw [hfirst, List.append_assoc, List.cons_append] at hcut
  rw [hcut] at horder
  obtain ⟨hbefore, hafter⟩ := horder.of_append
  constructor
  · intro h
    by_contra hfront
    obtain ⟨n, front', rfl⟩ := List.exists_cons_of_ne_nil hfront
    have hn : n ∈ s.listed (r.selection owner) r.sort r.order := by simp [hcut]
    obtain ⟨hmem, haccepts⟩ := Store.mem_listed.1 hn
    exact h first (by simp [hfirst]) n hmem haccepts (hbefore n (.head _))
  · rintro rfl first' hfirst' n hmem haccepts hprecedes
    obtain rfl : first = first' := by simpa [hfirst] using hfirst'
    have hn : n ∈ s.listed (r.selection owner) r.sort r.order :=
      Store.mem_listed.2 ⟨hmem, haccepts⟩
    rw [hcut, List.nil_append] at hn
    rcases List.mem_cons.1 hn with rfl | hn
    · exact Precedes.irrefl _ hprecedes
    · exact (hafter n hn).asymm hprecedes

/-! ## The pages of a listing as pieces of it -/

/-- The page is the piece of the listed notes between these two parts. It has a cursor back if
there are notes in front, and after a cursor in any case. -/
structure IsPiece (s : Store) (owner : Owner) (r : ListRequest) (page : Page)
    (front back : List Note) : Prop where
  listed : s.listed (r.selection owner) r.sort r.order = front ++ page.notes ++ back
  prev : page.prev = if front ≠ [] ∨ r.start.isAfterCursor = true then
    cursorAt r.sort page.notes.head? else none

section
variable {cursor : Cursor} {direction : PageDirection} {p : Position}

/-- The page without a cursor `IsPiece` of the listed notes with nothing in front. -/
theorem piece_first (hstart : r.start = .cursor none direction)
    (hpage : answer s owner r = .ok page) : ∃ back, IsPiece s owner r page [] back := by
  rw [answer_eq, outcome] at hpage
  simp only [hstart, Except.mapError, Except.ok.injEq] at hpage
  subst hpage
  refine ⟨(s.listed (r.selection owner) r.sort r.order).drop r.limit, ?_, ?_⟩
  · exact (List.take_append_drop r.limit _).symm
  · simp [pageFirst, PageStart.isAfterCursor, hstart]

/-- The page after a cursor `IsPiece` with the listed notes in front that do not come after the
position that the cursor `Marks`. -/
theorem piece_after (hs : s.DistinctIds) (hstart : r.start = .cursor (some cursor) .next)
    (hmarks : cursor.Marks s owner r.sort p) (hpage : answer s owner r = .ok page) :
    ∃ back, IsPiece s owner r page ((s.listed (r.selection owner) r.sort r.order).filter
      fun n => !decide (Precedes r.order p (.ofNote n r.sort))) back := by
  have horder : InOrder r.sort r.order (s.listed (r.selection owner) r.sort r.order) :=
    Store.listed_inOrder hs
  have hafter := answer_after (r := r) hs hmarks
  rw [← hstart] at hafter
  obtain rfl := Except.ok.inj (hpage.symm.trans hafter)
  have hcut := horder.cut_after p
  generalize notesAfter r.sort r.order p _ = notes at hcut ⊢
  refine ⟨notes.drop r.limit, ?_, ?_⟩
  · simp only [pageAfter, List.append_assoc, List.take_append_drop]
    exact hcut
  · simp [pageAfter, PageStart.isAfterCursor, hstart]

/-- The page before a cursor `IsPiece` with those of `notesBefore` in front that are left out. -/
theorem piece_before (hs : s.DistinctIds) (hstart : r.start = .cursor (some cursor) .prev)
    (hmarks : cursor.Marks s owner r.sort p) (hpage : answer s owner r = .ok page) :
    ∃ front back, IsPiece s owner r page front back := by
  have horder : InOrder r.sort r.order (s.listed (r.selection owner) r.sort r.order) :=
    Store.listed_inOrder hs
  have hbefore := answer_before (r := r) hs hmarks
  rw [← hstart] at hbefore
  obtain rfl := Except.ok.inj (hpage.symm.trans hbefore)
  obtain ⟨rest, hcut⟩ := horder.cut_before p
  generalize notesBefore r.sort r.order p _ = notes at hcut ⊢
  have hfront : notes.take (notes.length - r.limit) ≠ [] ↔ r.limit < notes.length := by
    rw [ne_eq, ← List.length_eq_zero_iff, List.length_take]
    omega
  refine ⟨notes.take (notes.length - r.limit), rest, ?_, ?_⟩
  · simp only [pageBefore, reverse_take_reverse, List.take_append_drop]
    exact hcut
  · simp only [pageBefore, PageStart.isAfterCursor, hstart, hfront, List.length_reverse,
      Bool.false_eq_true, or_false]

end

/-- A cursor next to which there is a page `Marks` some position. -/
theorem exists_marks {cursor : Cursor} {direction : PageDirection}
    (hstart : r.start = .cursor (some cursor) direction) (hpage : answer s owner r = .ok page) :
    ∃ p, cursor.Marks s owner r.sort p := by
  cases comesTo_of_answer hpage with
  | after hafter hplace | before hafter hplace =>
    cases hstart.symm.trans hafter
    exact ⟨_, Store.marks_of_place hplace⟩
  | first hother | behind hother | around hother => cases hstart.symm.trans hother

/-- Every page that is not asked for by offset `IsPiece` of the listed notes. -/
theorem exists_piece (hs : s.DistinctIds) (hstart : ∀ offset, r.start ≠ .offset offset)
    (hpage : answer s owner r = .ok page) : ∃ front back, IsPiece s owner r page front back := by
  cases comesTo_of_answer hpage with
  | first hfirst => exact ⟨[], piece_first hfirst hpage⟩
  | after hafter hplace => exact ⟨_, piece_after hs hafter (Store.marks_of_place hplace) hpage⟩
  | before hbefore hplace => exact piece_before hs hbefore (Store.marks_of_place hplace) hpage
  | behind hbehind => cases hstart _ hbehind
  | around haround =>
    obtain ⟨front, back, hcut, -, hprev, -⟩ := answer_anchor hs haround hpage
    exact ⟨front, back, hcut, by simp [hprev, PageStart.isAfterCursor, haround]⟩

/-- A page with notes is asked for `FromOutside` exactly when it is asked for after a cursor and
`IsFirst`. -/
theorem fromOutside_iff (hs : s.DistinctIds) (hpage : answer s owner r = .ok page)
    (hnotes : page.notes ≠ []) :
    FromOutside s owner r ↔ r.start.isAfterCursor = true ∧ IsFirst s owner r page := by
  -- What is in front of the page is what does not come after the position.
  have hfirst {cursor : Cursor} {p : Position} (hstart : r.start = .cursor (some cursor) .next)
      (hmarks : cursor.Marks s owner r.sort p) : IsFirst s owner r page ↔
        ∀ n ∈ s.notes, (r.selection owner).accepts n = true →
          Precedes r.order p (.ofNote n r.sort) := by
    obtain ⟨back, hpiece⟩ := piece_after hs hstart hmarks hpage
    rw [isFirst_iff hs hpiece.listed hnotes, List.filter_eq_nil_iff]
    simp only [Store.mem_listed, Bool.not_eq_true', decide_eq_false_iff_not, not_not, and_imp]
  constructor
  · rintro ⟨cursor, p, hstart, hmarks, hall⟩
    exact ⟨by rw [hstart]; rfl, (hfirst hstart hmarks).2 hall⟩
  · rintro ⟨hafter, h⟩
    obtain ⟨cursor, hstart⟩ : ∃ cursor, r.start = .cursor (some cursor) .next := by
      unfold PageStart.isAfterCursor at hafter
      split at hafter
      · exact ⟨_, ‹_›⟩
      · cases hafter
    obtain ⟨p, hmarks⟩ := exists_marks hstart hpage
    exact ⟨cursor, p, hstart, hmarks, (hfirst hstart hmarks).1 h⟩

/-! ## Going back -/

/-- A page with notes that `IsPiece` has no `prev` exactly when nothing is in front and it is not
asked for after a cursor. -/
theorem IsPiece.prev_eq_none_iff (hpiece : IsPiece s owner r page front back)
    (hnotes : page.notes ≠ []) :
    page.prev = none ↔ front = [] ∧ ¬ r.start.isAfterCursor = true := by
  rw [hpiece.prev, List.head?_eq_some_head hnotes]
  by_cases hback : front ≠ [] ∨ r.start.isAfterCursor = true
  · rw [if_pos hback]
    exact iff_of_false nofun (by tauto)
  · rw [if_neg hback]
    exact iff_of_true rfl (by tauto)

/-- `goOn` with the `prev` of a page that `IsPiece` comes to the last of the notes in front that
fit. -/
theorem goOn_piece (hs : s.DistinctIds) (hpiece : IsPiece s owner r page front back) {raw : String}
    (hraw : raw ∈ page.prev) (limit : Nat) : ∃ further,
      goOn s owner r raw .prev limit = .ok further
      ∧ further.notes = front.drop (front.length - limit) := by
  have hprev := hpiece.prev
  rw [Option.mem_def.1 hraw] at hprev
  split at hprev
  · cases hhead : page.notes.head? with
    | none => simp [hhead, cursorAt] at hprev
    | some n =>
      simp only [hhead, cursorAt, Option.map_some, Option.some.injEq] at hprev
      rw [hprev]
      exact ⟨_, goOn_head hs hpiece.listed hhead, reverse_take_reverse limit front⟩
  · cases hprev

/-- The `prev` of a page of `Listing.answer`, asked for by cursor or around an anchor. Unless it is
asked for `FromOutside`, it has no `prev` exactly if it `IsFirst`, and `goOn` with its `prev` comes
to a page with notes. Asked for `FromOutside`, after a cursor whose position lies in front of all
selected notes, a page with notes `IsFirst` and has a `prev` all the same, and `goOn` with it comes
to a page without notes. `Parameters.goOn` makes parameters that ask for these pages. -/
theorem answer_prev_exact (hs : s.DistinctIds) (hstart : ∀ offset, r.start ≠ .offset offset)
    (hpage : answer s owner r = .ok page) :
    (¬ FromOutside s owner r →
      (page.prev = none ↔ IsFirst s owner r page)
      ∧ ∀ raw ∈ page.prev, ∀ limit, 0 < limit → ∃ further,
        goOn s owner r raw .prev limit = .ok further ∧ further.notes ≠ [])
    ∧ (FromOutside s owner r → page.notes ≠ [] →
      IsFirst s owner r page
      ∧ ∃ raw ∈ page.prev, ∀ limit, ∃ further,
        goOn s owner r raw .prev limit = .ok further ∧ further.notes = [])
    ∧ ∀ p : Parameters, p.validate = .ok r → ∀ raw limit, minLimit ≤ limit ∧ limit ≤ maxLimit →
      ask s owner (p.goOn raw .prev limit) = goOn s owner r raw .prev limit := by
  obtain ⟨front, back, hpiece⟩ := exists_piece hs hstart hpage
  by_cases hnotes : page.notes = []
  · -- Without notes there is nothing to make a cursor of, and nothing that a note could precede.
    have hnone : page.prev = none := by
      rw [hpiece.prev, hnotes]
      split <;> rfl
    refine ⟨fun _ => ⟨⟨fun _ => ?_, fun _ => hnone⟩, fun raw hraw => ?_⟩,
      fun _ hsome => absurd hnotes hsome, fun p hp raw limit => ask_goOn hp⟩
    · simp [IsFirst, hnotes]
    · simp [hnone] at hraw
  · rw [fromOutside_iff hs hpage hnotes, isFirst_iff hs hpiece.listed hnotes,
      hpiece.prev_eq_none_iff hnotes]
    refine ⟨fun houtside => ⟨by tauto, fun raw hraw limit hlimit => ?_⟩,
      fun ⟨hafter, hfront⟩ _ => ?_, fun p hp raw limit => ask_goOn hp⟩
    · have hfront : front ≠ [] := by
        intro hfront
        have hnone := (hpiece.prev_eq_none_iff hnotes).2 ⟨hfront, by tauto⟩
        rw [hnone] at hraw
        cases hraw
      obtain ⟨further, hfurther, hgoes⟩ := goOn_piece hs hpiece hraw limit
      refine ⟨further, hfurther, ?_⟩
      have hpos := List.length_pos_iff.2 hfront
      rw [hgoes, ne_eq, List.drop_eq_nil_iff]
      omega
    · obtain ⟨raw, hraw⟩ : ∃ raw, page.prev = some raw := by
        rw [← Option.ne_none_iff_exists', ne_eq, hpiece.prev_eq_none_iff hnotes]
        tauto
      refine ⟨hfront, raw, hraw, fun limit => ?_⟩
      obtain ⟨further, hfurther, hgoes⟩ := goOn_piece hs hpiece hraw limit
      exact ⟨further, hfurther, by rw [hgoes, hfront, List.drop_nil]⟩

/-- A red note of the owner `ann`. -/
def redNote : Note := { teaNote 1 "ann" with createdAt := .ofSeconds 1 }

/-- A blue note of the same owner that is newer. -/
def blueNote : Note := { teaNote 2 "ann" with color := "blue", createdAt := .ofSeconds 2 }

/-- The store with `redNote` and `blueNote`. -/
def redAndBlue : Store := ⟨[redNote, blueNote]⟩

/-- The parameters for the red notes after the blue one, newest first. -/
def redAfterBlue : Parameters where
  color := some "red"
  cursor := some "000000000000000000000002"

/-- The request that they make. -/
def redAfterBlueRequest : ListRequest where
  start := .cursor (some (.note ⟨2⟩)) .next
  color := some "red"

/-- The page that is answered: the one red note, with a cursor back. -/
def redPage : Page where
  notes := [redNote]
  prev := some "000000000000000000000001"
  hasMore := false
  totals := ⟨1, 2⟩

/-- `redAfterBlue` comes to `redAfterBlueRequest` by `validate`. -/
theorem validate_redAfterBlue : redAfterBlue.validate = .ok redAfterBlueRequest := by
  decide +kernel

/-- `Listing.answer` to `redAfterBlueRequest` is `redPage`. -/
theorem answer_redAfterBlue : answer redAndBlue ⟨"ann"⟩ redAfterBlueRequest = .ok redPage := by
  have houtcome : outcome redAndBlue ⟨"ann"⟩ redAfterBlueRequest = .ok redPage := by decide +kernel
  rw [answer_eq, houtcome]
  rfl

/-- The notes about tea after the second of them. -/
def secondTeas : ListRequest :=
  { teaRequest with start := .cursor (some (.titled "Tea" ⟨2⟩)) .next }

/-- `answer_prev_exact` on both sides: the page after the second note of `teaStore` has a `prev`
that leads to notes, and `redPage`, asked for after a note that is not red, has one that leads to
none. -/
theorem answer_prev_exact_redAndBlue :
    (∃ page raw further, answer teaStore ⟨"ann"⟩ secondTeas = .ok page
      ∧ page.prev = some raw ∧ goOn teaStore ⟨"ann"⟩ secondTeas raw .prev 5 = .ok further
      ∧ further.notes ≠ [])
    ∧ ∃ raw ∈ redPage.prev, ∃ further,
      goOn redAndBlue ⟨"ann"⟩ redAfterBlueRequest raw .prev 5 = .ok further
        ∧ further.notes = [] := by
  constructor
  · have hdistinct : teaStore.DistinctIds := by decide
    have hafter : notesAfter .title .descending ⟨.text "Tea", ⟨2⟩⟩
        (teaStore.listed (teaRequest.selection ⟨"ann"⟩) .title .descending)
          = [teaNote 1 "ann"] := by
      rw [listed_teaStore]
      decide
    have hpage : answer teaStore ⟨"ann"⟩ secondTeas = .ok (pageAfter .title 2
        (teaStore.totals (teaRequest.selection ⟨"ann"⟩)) [teaNote 1 "ann"]) := by
      rw [← hafter]
      exact answer_after (r := teaRequest) hdistinct (.titled "Tea" ⟨2⟩)
    have hinside : ¬ FromOutside teaStore ⟨"ann"⟩ secondTeas := by
      rintro ⟨cursor, p, hstart, hmarks, hall⟩
      cases hstart
      cases hmarks
      have hlast := hall (teaNote 3 "ann") (by decide) (by decide)
      exact absurd hlast (by decide)
    obtain ⟨hback, -⟩ := answer_prev_exact hdistinct (by simp [secondTeas]) hpage
    obtain ⟨further, hfurther, hnotes⟩ := (hback hinside).2 _ rfl 5 (by decide)
    exact ⟨_, _, further, hpage, rfl, hfurther, hnotes⟩
  · have hmarks : (Cursor.note ⟨2⟩).Marks redAndBlue ⟨"ann"⟩ .createdAt
        (.ofNote blueNote .createdAt) :=
      .note (n := blueNote) (by decide) rfl
    have houtside : FromOutside redAndBlue ⟨"ann"⟩ redAfterBlueRequest :=
      ⟨_, _, rfl, hmarks, by decide⟩
    obtain ⟨-, hback, -⟩ := answer_prev_exact (by decide) (by simp [redAfterBlueRequest])
      answer_redAfterBlue
    obtain ⟨-, raw, hraw, hempty⟩ := hback houtside (by decide)
    exact ⟨raw, hraw, hempty 5⟩

/-- A page that `IsFirst` may have a `prev`, and `goOn` with it may come to no notes: `redPage`
does. -/
theorem not_answer_prev : ¬ ∀ (s : Store) (owner : Owner) (p : Parameters) (r : ListRequest)
    (page : Page), s.DistinctIds → p.validate = .ok r → (∀ offset, r.start ≠ .offset offset) →
    answer s owner r = .ok page →
    (IsFirst s owner r page → page.prev = none)
    ∧ ∀ raw ∈ page.prev, ∀ limit, 0 < limit → ∃ further,
      goOn s owner r raw .prev limit = .ok further ∧ further.notes ≠ [] := by
  intro h
  obtain ⟨hprev, -⟩ := h redAndBlue ⟨"ann"⟩ _ _ _ (by decide) validate_redAfterBlue
    (by simp [redAfterBlueRequest]) answer_redAfterBlue
  have hfirst : IsFirst redAndBlue ⟨"ann"⟩ redAfterBlueRequest redPage := by
    intro first hfirst
    cases hfirst
    decide +kernel
  cases hprev hfirst

end Listing

end NotePager

import NotePager.Proofs.Paging.Walk
import NotePager.Proofs.Store.History

/-!
# Walking while others write

Between the pages of a walk, notes may be inserted, patched and removed. A walk by the time of
creation or by title still shows notes in the order of the listing, and shows every note once that
is selected all the while: each page starts behind the last note of the page before it, as that note
was when it was read (`Listing.Asks`). A title is carried along by the cursor. The time of creation
has to be looked up again, but it cannot have changed.
-/

namespace NotePager.Listing

open Position

/-! ## Walks and their visits -/

/-- A walk forward during which others write: each visit is the store as it was asked, and the page
that it answered. -/
inductive LiveWalk (owner : Owner) : History → Parameters → List (Store × Page) → Prop
  | last {h : History} {p : Parameters} {page : Page} (hpage : ask h.store owner p = .ok page)
    (hnext : page.next = none) : LiveWalk owner h p [(h.store, page)]
  | step {h h' : History} {p : Parameters} {page : Page} {raw : String}
    {visits : List (Store × Page)} (hpage : ask h.store owner p = .ok page)
    (hnext : page.next = some raw) (hwrites : h.Later h')
    (hrest : LiveWalk owner h' (p.fromCursor raw) visits) :
    LiveWalk owner h p ((h.store, page) :: visits)

/-- The notes that a walk has shown, as they were when they were read. -/
def shown (visits : List (Store × Page)) : List Note := visits.flatMap (·.2.notes)

/-- All the while there is a selected note with this identifier. In a walk by title, it keeps its
title. -/
def Stays (sel : Selection) (sort : SortBy) (id : NoteId) (title : String)
    (visits : List (Store × Page)) : Prop :=
  ∀ v ∈ visits, ∃ n ∈ v.1.notes,
    n.id = id ∧ sel.accepts n = true ∧ (sort = .title → n.title = title)

/-- `Stays` for a note with the identifier and, in a listing by title, the title. -/
theorem Stays.of_note {sel : Selection} {sort : SortBy} {n : Note} {id : NoteId} {title : String}
    {visits : List (Store × Page)} (hstays : Stays sel sort id title visits) (hid : n.id = id)
    (htitle : sort = .title → n.title = title) : Stays sel sort n.id n.title visits := by
  intro v hv
  obtain ⟨m, hm, hmid, hselected, hmtitle⟩ := hstays v hv
  exact ⟨m, hm, hmid.trans hid.symm, hselected, fun hs => (hmtitle hs).trans (htitle hs).symm⟩

/-- The rows that a page is made of: all listed notes, or those after a position. -/
def rowsFrom (s : Store) (sel : Selection) (sort : SortBy) (order : SortOrder) :
    Option Position → List Note
  | none => s.listed sel sort order
  | some p => notesAfter sort order p (s.listed sel sort order)

/-- What a walk comes to when requests and cursors are left out: each visit shows the first of the
rows behind a position, and goes on behind the last note that it shows. -/
inductive Reading (sel : Selection) (sort : SortBy) (order : SortOrder) :
    History → Option Position → List (Store × Page) → Prop
  | last {h : History} {behind : Option Position} {page : Page}
    (hnotes : page.notes = rowsFrom h.store sel sort order behind) :
    Reading sel sort order h behind [(h.store, page)]
  | step {h h' : History} {behind : Option Position} {page : Page} {front : List Note} {n : Note}
    {back : List Note} {visits : List (Store × Page)}
    (hcut : rowsFrom h.store sel sort order behind = front ++ n :: back)
    (hnotes : page.notes = front ++ [n]) (hwrites : h.Later h')
    (hrest : Reading sel sort order h' (some (.ofNote n sort)) visits) :
    Reading sel sort order h behind ((h.store, page) :: visits)

/-- The parameters ask for the page behind a position: that of a note as it once was, whose
identifier still stands for the time when the note was created. -/
inductive Asks (p : Parameters) (sort : SortBy) (h : History) :
    Parameters → Option Position → Prop
  | first : Asks p sort h p none
  | behind (n : Note) (hdates : h.Dates n.id n.createdAt) :
    Asks p sort h (p.fromCursor (Cursor.atNote n sort).encode) (some (.ofNote n sort))

section
variable {owner : Owner} {sort : SortBy} {order : SortOrder} {sel : Selection} {s : Store}
  {h h' : History} {p q : Parameters} {r : ListRequest} {behind : Option Position} {page : Page}
  {visits : List (Store × Page)} {n : Note}

/-- `rowsFrom` are the selected notes behind the position. -/
theorem mem_rowsFrom : n ∈ rowsFrom s sel sort order behind
    ↔ n ∈ s.notes ∧ sel.accepts n = true
      ∧ ∀ p ∈ behind, Precedes order p (.ofNote n sort) := by
  cases behind with
  | none => simp [rowsFrom, Store.mem_listed]
  | some p => simp [rowsFrom, notesAfter, Store.mem_listed, and_assoc]

/-- `rowsFrom` are `InOrder`. -/
theorem rowsFrom_inOrder (hs : s.DistinctIds) :
    InOrder sort order (rowsFrom s sel sort order behind) := by
  have hlisted : InOrder sort order (s.listed sel sort order) := Store.listed_inOrder hs
  cases behind with
  | none => exact hlisted
  | some p => exact hlisted.sublist List.filter_sublist

/-- The position of a note with the identifier of `n`, and its title in a listing by title, is that
of `n`, in a store whose history `Dates` the identifier by the creation of `n`. -/
theorem ofNote_dated (hsort : sort ≠ .updatedAt) {m : Note} (hdates : h.Dates n.id n.createdAt)
    (hm : m ∈ h.store.notes) (hid : m.id = n.id) (htitle : sort = .title → m.title = n.title) :
    Position.ofNote m sort = .ofNote n sort := by
  cases sort with
  | title => simp only [ofNote, Note.value, SortBy.field, hid, htitle]
  | updatedAt => exact absurd rfl hsort
  | createdAt => simp only [ofNote, Note.value, SortBy.field, hid, hdates.date m hm hid]

/-- `Store.place` of the cursor at `n` is the position of `n` or fails, in a store whose history
`Dates` the identifier by the creation of `n`. -/
theorem place_dated (hsort : sort ≠ .updatedAt) (hdates : h.Dates n.id n.createdAt)
    {place : Position} (hplace : h.store.place owner sort (.atNote n sort) = .ok place) :
    place = .ofNote n sort := by
  cases sort with
  | title =>
    cases hplace
    rfl
  | updatedAt => exact absurd rfl hsort
  | createdAt =>
    have hcursor : Cursor.atNote n .createdAt = .note n.id := rfl
    simp only [Store.place, hcursor, ofCursor?, Cursor.id] at hplace
    cases hfind : h.store.notes.find? fun m => m.owner == owner && m.id == n.id with
    | none => simp only [hfind, reduceCtorEq] at hplace
    | some m =>
      simp only [hfind, Except.ok.injEq] at hplace
      have hfound := List.find?_some hfind
      simp only [Bool.and_eq_true, beq_iff_eq] at hfound
      rw [← hplace]
      exact ofNote_dated hsort hdates (List.mem_of_find?_eq_some hfind) hfound.2
        SortBy.noConfusion

/-- Rows longer than `limit`, cut behind the last of the first `limit`. -/
theorem exists_last_row {limit : Nat} (hlimit : 0 < limit) {rows : List Note}
    (hrows : limit < rows.length) :
    ∃ front n back, rows = front ++ n :: back ∧ rows.take limit = front ++ [n] := by
  obtain ⟨k, rfl⟩ : ∃ k, limit = k + 1 := ⟨limit - 1, (Nat.sub_add_cancel hlimit).symm⟩
  have hk : k < rows.length := by omega
  exact ⟨_, rows[k], _, eq_take_append_drop hk, List.take_succ_eq_append_getElem hk⟩

/-- `ask` with parameters that `Asks` for a position gives all of `rowsFrom` and no `next`, or a
front of them with the `next` of its last note. -/
theorem ask_rowsFrom (hh : h.Sound) (hp : p.validate = .ok r)
    (hstart : r.start = .cursor none .next) (hsort : r.sort ≠ .updatedAt)
    (hq : Asks p r.sort h q behind) (hpage : ask h.store owner q = .ok page) :
    (page.next = none
      ∧ page.notes = rowsFrom h.store (r.selection owner) r.sort r.order behind)
    ∨ ∃ front n back, page.next = some (Cursor.atNote n r.sort).encode
      ∧ page.notes = front ++ [n]
      ∧ rowsFrom h.store (r.selection owner) r.sort r.order behind = front ++ n :: back := by
  have hlimit : 0 < r.limit := (Parameters.limit_bounds hp).1
  obtain ⟨hnotes, hnext⟩ : page.notes
        = (rowsFrom h.store (r.selection owner) r.sort r.order behind).take r.limit
      ∧ page.next
        = if r.limit < (rowsFrom h.store (r.selection owner) r.sort r.order behind).length then
            cursorAt r.sort ((rowsFrom h.store (r.selection owner) r.sort r.order behind).take
              r.limit).getLast?
          else none := by
    cases hq with
    | first =>
      rw [ask_first hp hstart] at hpage
      cases hpage
      exact ⟨rfl, rfl⟩
    | behind n hdates =>
      have hvalid :=
        Parameters.validate_fromCursor hp hstart (Cursor.decode_encode_atNote n r.sort)
      rw [ask_eq hvalid, outcome] at hpage
      cases hplace : h.store.place owner r.sort (.atNote n r.sort) with
      | error e => simp only [hplace, Except.map, Except.mapError, reduceCtorEq] at hpage
      | ok place =>
        simp only [hplace, Except.map, Except.mapError, Except.ok.injEq] at hpage
        rw [place_dated hsort hdates hplace, Store.rowsAfter_eq hh.distinct] at hpage
        rw [← hpage]
        exact ⟨rfl, rfl⟩
  by_cases hrows : r.limit < (rowsFrom h.store (r.selection owner) r.sort r.order behind).length
  · obtain ⟨front, n, back, hcut, htake⟩ := exists_last_row hlimit hrows
    rw [if_pos hrows, htake, List.getLast?_concat] at hnext
    exact .inr ⟨front, n, back, hnext, hnotes.trans htake, hcut⟩
  · rw [if_neg hrows] at hnext
    rw [List.take_of_length_le (Nat.not_lt.1 hrows)] at hnotes
    exact .inl ⟨hnext, hnotes⟩

/-- `Asks` for the position of the last note of a page, in every later history. -/
theorem Asks.next (hh : h.Sound) (hlater : h.Later h') (hq : Asks p sort h q behind)
    (hn : n ∈ h.store.notes) :
    Asks p sort h' (q.fromCursor (Cursor.atNote n sort).encode) (some (.ofNote n sort)) := by
  have hfrom : q.fromCursor (Cursor.atNote n sort).encode
      = p.fromCursor (Cursor.atNote n sort).encode := by
    cases hq <;> rfl
  rw [hfrom]
  exact .behind n ((hh.dates hn).later hlater)

/-- A `LiveWalk` by the time of creation or by title is a `Reading`. -/
theorem LiveWalk.reading (hwalk : LiveWalk owner h q visits) (hh : h.Sound)
    (hp : p.validate = .ok r) (hstart : r.start = .cursor none .next)
    (hsort : r.sort ≠ .updatedAt) (hq : Asks p r.sort h q behind) :
    Reading (r.selection owner) r.sort r.order h behind visits := by
  induction hwalk generalizing behind with
  | last hpage hnext =>
    rcases ask_rowsFrom hh hp hstart hsort hq hpage with ⟨-, hnotes⟩ | ⟨_, _, _, hlink, -, -⟩
    · exact .last hnotes
    · cases hnext.symm.trans hlink
  | step hpage hnext hwrites hrest ih =>
    rcases ask_rowsFrom hh hp hstart hsort hq hpage with
      ⟨hlink, -⟩ | ⟨front, n, back, hlink, hnotes, hcut⟩
    · cases hnext.symm.trans hlink
    · cases hnext.symm.trans hlink
      have hn : n ∈ front ++ n :: back := by simp
      rw [← hcut] at hn
      have hasks := hq.next hh hwrites (mem_rowsFrom.1 hn).1
      exact .step hcut hnotes hwrites (ih (hh.later hwrites) hasks)

end

/-! ## What a reading shows -/

namespace Reading

variable {sel : Selection} {sort : SortBy} {order : SortOrder} {h : History}
  {behind : Option Position} {visits : List (Store × Page)} {n : Note}

/-- A `Reading` shows notes behind its position, `InOrder`. -/
theorem inOrder (hread : Reading sel sort order h behind visits) (hh : h.Sound) :
    (∀ n ∈ shown visits, ∀ place ∈ behind, Precedes order place (.ofNote n sort))
      ∧ InOrder sort order (shown visits) := by
  induction hread with
  | last hnotes =>
    rw [shown, List.flatMap_singleton, hnotes]
    exact ⟨fun n hn => (mem_rowsFrom.1 hn).2.2, rowsFrom_inOrder hh.distinct⟩
  | @step h h' behind page front n back visits hcut hnotes hwrites hrest ih =>
    have hrows : InOrder sort order (front ++ n :: back) := hcut ▸ rowsFrom_inOrder hh.distinct
    have hsub : (front ++ [n]).Sublist (front ++ n :: back) := by simp
    have hmem (m : Note) (hm : m ∈ front ++ [n]) :
        ∀ place ∈ behind, Precedes order place (.ofNote m sort) := by
      have hrow : m ∈ rowsFrom h.store sel sort order behind := hcut ▸ hsub.mem hm
      exact (mem_rowsFrom.1 hrow).2.2
    -- The rest of the walk lies behind `n`, the last note of this page.
    obtain ⟨hafter, horder⟩ := ih (hh.later hwrites)
    have hlast (m : Note) (hm : m ∈ front ++ [n]) (m' : Note) (hm' : m' ∈ shown visits) :
        Precedes order (.ofNote m sort) (.ofNote m' sort) := by
      have hn := hafter m' hm' _ rfl
      rcases List.mem_append.1 hm with hfront | hlast
      · exact (hrows.of_append.1 m hfront).trans hn
      · rw [List.mem_singleton.1 hlast]
        exact hn
    have hshown : shown ((h.store, page) :: visits) = (front ++ [n]) ++ shown visits := by
      rw [shown, List.flatMap_cons, hnotes]
      rfl
    rw [hshown]
    refine ⟨fun m hm place hplace => ?_, (hrows.sublist hsub).append horder hlast⟩
    rcases List.mem_append.1 hm with hpage | hrest
    · exact hmem m hpage place hplace
    · exact (hmem n (by simp) place hplace).trans (hafter m hrest _ rfl)

/-- A `Reading` visits the store of its history. -/
theorem head (hread : Reading sel sort order h behind visits) :
    ∃ v ∈ visits, v.1 = h.store := by
  cases hread with
  | last => exact ⟨_, List.mem_cons_self, rfl⟩
  | step => exact ⟨_, List.mem_cons_self, rfl⟩

/-- The visits of a `Reading` are at stores of later histories, and show their notes. -/
theorem visit (hread : Reading sel sort order h behind visits) {v : Store × Page}
    (hv : v ∈ visits) : ∃ h', h.Later h' ∧ h'.store = v.1 ∧ ∀ n ∈ v.2.notes, n ∈ v.1.notes := by
  induction hread with
  | last hnotes =>
    rw [List.mem_singleton.1 hv]
    refine ⟨_, .refl, rfl, fun n hn => ?_⟩
    rw [hnotes] at hn
    exact (mem_rowsFrom.1 hn).1
  | @step h h' behind page front n back visits hcut hnotes hwrites hrest ih =>
    rcases List.mem_cons.1 hv with rfl | hv
    · refine ⟨h, .refl, rfl, fun m hm => ?_⟩
      have hsub : (front ++ [n]).Sublist (front ++ n :: back) := by simp
      have hrow : m ∈ rowsFrom h.store sel sort order behind := by
        rw [hcut]
        exact hsub.mem (hnotes ▸ hm)
      exact (mem_rowsFrom.1 hrow).1
    · obtain ⟨h₁, hlater, hstore, hnotes⟩ := ih hv
      exact ⟨h₁, hwrites.trans hlater, hstore, hnotes⟩

/-- A `Reading` shows a note behind its position that `Stays`. -/
theorem exists_shown (hread : Reading sel sort order h behind visits) (hh : h.Sound)
    (hsort : sort ≠ .updatedAt) (hn : n ∈ h.store.notes) (haccepts : sel.accepts n = true)
    (hbehind : ∀ place ∈ behind, Precedes order place (.ofNote n sort))
    (hstays : Stays sel sort n.id n.title visits) : ∃ m ∈ shown visits, m.id = n.id := by
  induction hread generalizing n with
  | last hnotes =>
    refine ⟨n, ?_, rfl⟩
    rw [shown, List.flatMap_singleton, hnotes]
    exact mem_rowsFrom.2 ⟨hn, haccepts, hbehind⟩
  | @step h h' behind page front last back visits hcut hnotes hwrites hrest ih =>
    have hshown : shown ((h.store, page) :: visits) = (front ++ [last]) ++ shown visits := by
      rw [shown, List.flatMap_cons, hnotes]
      rfl
    have hrow : n ∈ front ++ [last] ++ back := by
      have hrow : n ∈ rowsFrom h.store sel sort order behind :=
        mem_rowsFrom.2 ⟨hn, haccepts, hbehind⟩
      rw [hcut] at hrow
      simpa using hrow
    rcases List.mem_append.1 hrow with hpage | hback
    · exact ⟨n, hshown ▸ List.mem_append_left _ hpage, rfl⟩
    · -- The note lies behind the page. At the next visit it is still there, in the same place.
      have hrows : InOrder sort order (front ++ last :: back) :=
        hcut ▸ rowsFrom_inOrder hh.distinct
      have hrest' : Stays sel sort n.id n.title visits := fun v hv => hstays v (.tail _ hv)
      obtain ⟨v, hv, hstore⟩ := hrest.head
      obtain ⟨m, hm, hid, hselected, htitle⟩ := hrest' v hv
      rw [hstore] at hm
      have hplace : Position.ofNote m sort = .ofNote n sort :=
        ofNote_dated hsort ((hh.dates hn).later hwrites) hm hid htitle
      have hafter : ∀ place ∈ some (Position.ofNote last sort),
          Precedes order place (.ofNote m sort) := by
        intro place hmem
        cases hmem
        rw [hplace]
        exact hrows.of_append.2 n hback
      obtain ⟨k, hk, hkid⟩ :=
        ih (hh.later hwrites) hm hselected hafter (hrest'.of_note hid htitle)
      exact ⟨k, hshown ▸ List.mem_append_right _ hk, hkid.trans hid⟩

end Reading

/-! ## What a walk shows -/

/-- Notes that are `InOrder` hold one note at most with an identifier, if all notes with it have the
same position. -/
theorem countP_le_one {sort : SortBy} {order : SortOrder} {notes : List Note} {id : NoteId}
    {place : Position} (horder : InOrder sort order notes)
    (hplace : ∀ n ∈ notes, n.id = id → .ofNote n sort = place) :
    notes.countP (·.id == id) ≤ 1 := by
  induction notes with
  | nil => simp
  | cons n ns ih =>
    obtain ⟨hfirst, hrest⟩ := List.pairwise_cons.1 (List.pairwise_map.1 horder)
    by_cases hid : n.id = id
    · have hnone : ns.countP (·.id == id) = 0 := by
        rw [List.countP_eq_zero]
        intro m hm hmid
        have hprecedes := hfirst m hm
        rw [hplace n (.head _) hid, hplace m (.tail _ hm) (beq_iff_eq.1 hmid)] at hprecedes
        exact hprecedes.irrefl
      simp [hid, hnone]
    · have hns := ih (List.pairwise_map.2 hrest) fun m hm => hplace m (.tail _ hm)
      simpa [List.countP_cons, hid] using hns

/-- A `LiveWalk` by the time of creation or by title that ends shows notes `InOrder`, with any
insertions of new identifiers, patches and removals between the visits. A note that is selected at
every visit, and keeps its title in a listing by title (`Stays`), is shown exactly once. -/
theorem liveWalk_complete {s : Store} {owner : Owner} {p : Parameters} {r : ListRequest}
    {visits : List (Store × Page)} (hs : s.DistinctIds) (hp : p.validate = .ok r)
    (hstart : r.start = .cursor none .next) (hsort : r.sort ≠ .updatedAt)
    (hwalk : LiveWalk owner (.begin s) p visits) :
    InOrder r.sort r.order (shown visits)
      ∧ ∀ id title, Stays (r.selection owner) r.sort id title visits →
        (shown visits).countP (·.id == id) = 1 := by
  have hsound := History.Sound.begin hs
  have hread := hwalk.reading hsound hp hstart hsort .first
  obtain ⟨-, horder⟩ := hread.inOrder hsound
  refine ⟨horder, fun id title hstays => ?_⟩
  obtain ⟨v, hv, hstore⟩ := hread.head
  obtain ⟨n, hn, rfl, hselected, htitle⟩ := hstays v hv
  rw [hstore] at hn
  have hstays := hstays.of_note rfl htitle
  have hplace : ∀ m ∈ shown visits, m.id = n.id → Position.ofNote m r.sort = .ofNote n r.sort := by
    intro m hm hid
    obtain ⟨v, hv, hmv⟩ := List.mem_flatMap.1 hm
    obtain ⟨h, hlater, hstore, hnotes⟩ := hread.visit hv
    obtain ⟨k, hk, hkid, -, hktitle⟩ := hstays v hv
    have hm := hnotes m hmv
    rw [← hstore] at hm hk
    have hkm : k = m := (hsound.later hlater).distinct.eq_of_id hk hm (hkid.trans hid.symm)
    exact ofNote_dated hsort ((hsound.dates hn).later hlater) hm hid (hkm ▸ hktitle)
  obtain ⟨m, hm, hid⟩ := hread.exists_shown hsound hsort hn hselected nofun hstays
  have hpos : 0 < (shown visits).countP (·.id == n.id) :=
    List.countP_pos_iff.2 ⟨m, hm, beq_iff_eq.2 hid⟩
  exact Nat.le_antisymm (countP_le_one horder hplace) hpos

/-- `liveWalk_complete` for `teaRequest` in `teaStore`, with the last note of the first page removed
before the second. -/
theorem liveWalk_complete_teaStore : ∃ visits,
    LiveWalk ⟨"ann"⟩ (.begin teaStore) (Parameters.ofRequest teaRequest) visits
      ∧ visits.length = 2 ∧ InOrder .title .descending (shown visits)
      ∧ (shown visits).countP (·.id == ⟨1⟩) = 1 := by
  let written : History := ⟨(StoreWrite.delete ⟨"ann"⟩ ⟨2⟩).apply teaStore, [⟨9⟩, ⟨3⟩, ⟨1⟩, ⟨2⟩]⟩
  have hlater : (History.begin teaStore).Later written :=
    .single ⟨.delete ⟨"ann"⟩ ⟨2⟩, nofun, rfl⟩
  have hfirst : ask teaStore ⟨"ann"⟩ (Parameters.ofRequest teaRequest)
      = .ok (pageFirst .title 2 ⟨3, 3⟩ [teaNote 3 "ann", teaNote 2 "ann", teaNote 1 "ann"]) := by
    have htotals : teaStore.totals (teaRequest.selection ⟨"ann"⟩) = ⟨3, 3⟩ := by decide
    rw [ask_first validate_teaRequest rfl, htotals]
    exact congrArg (fun rows => Except.ok (pageFirst .title 2 ⟨3, 3⟩ rows)) listed_teaStore
  have hvalid := Parameters.validate_fromCursor validate_teaRequest rfl
    (Cursor.decode_encode_atNote (teaNote 2 "ann") .title)
  have hsecond : ask written.store ⟨"ann"⟩ _ = _ := ask_eq hvalid
  have hrows : ¬ 2 < (written.store.rowsAfter (teaRequest.selection ⟨"ann"⟩) .title .descending
      (.ofNote (teaNote 2 "ann") .title)).length := by
    rw [Store.rowsAfter, (written.store.select_perm _ _).length_eq]
    decide
  have hwalk : LiveWalk ⟨"ann"⟩ (.begin teaStore) (Parameters.ofRequest teaRequest) _ :=
    .step hfirst rfl hlater (.last hsecond (if_neg hrows))
  obtain ⟨horder, hshown⟩ := liveWalk_complete (by decide) validate_teaRequest rfl (by decide) hwalk
  refine ⟨_, hwalk, rfl, horder, hshown ⟨1⟩ "Tea" fun v hv => ?_⟩
  rcases List.mem_cons.1 hv with rfl | hv
  · decide
  · rw [List.mem_singleton.1 hv]
    decide

end NotePager.Listing

import NotePager.Proofs.Paging.Walk
import NotePager.Proofs.Store.Steady

/-!
# The totals of a page

With every page comes how many notes are selected and how many are the owner's. Whichever way a
page is asked for, the totals are counted beside it, and one count has to do for both when nothing
but the owner is asked for. They depend on the notes, the search and the color alone
(`Listing.fetch_totals_exact`), and no page holds more notes than are selected.
-/

namespace NotePager

open Access Position

/-! ## Pages that come in spite of faults -/

namespace Listing

variable {s : Store} {sel : Selection} {sort : SortBy} {order : SortOrder} {limit : Nat}

/-- `guarded` is `Steady` when its call is. -/
theorem steady_guarded {call : Access StoreError α} (mode : PageMode) (operation : StoreOperation)
    (h : Steady call) : Steady (guarded mode operation call) := by
  intro c a c' ha
  simp only [guarded] at ha
  split at ha
  · cases ha
  · split at ha
    · cases ha
    · obtain ⟨hstore, hends⟩ := h (mapError_apply_eq_ok ha)
      exact ⟨hstore, ends_guarded mode operation hends⟩

/-- `Listing.totals` is `Steady`. -/
theorem steady_totals (mode : PageMode) (sel : Selection) : Steady (totals mode sel) := by
  have hcount (f : Filter) : Steady (guarded mode .count (.count f)) :=
    steady_guarded mode .count (.count f)
  by_cases hn : sel.isNarrowed
  · simp only [totals, hn, if_true]
    exact .bind ((hcount _).both (hcount _)) fun _ => .pure _
  · simp only [totals, hn]
    exact .bind (hcount _) fun _ => .pure _

/-- The query for notes is `Steady`. -/
theorem steady_find (mode : PageMode) (q : Query) : Steady (guarded mode .find (.find q)) :=
  steady_guarded mode .find (.find q)

/-- `resolve` is `Steady`. -/
theorem steady_resolve (sel : Selection) (sort : SortBy) (cursor : Cursor) :
    Steady (resolve sel sort cursor) := by
  cases hc : Position.ofCursor? cursor with
  | some position =>
    simp only [resolve, hc]
    exact .pure position
  | none =>
    simp only [resolve, hc]
    refine .bind (steady_guarded .cursor .findOne (.findOne _)) fun found => ?_
    cases found with
    | none => exact .halt _
    | some note => exact .pure _

/-- `cursorPage` is `Steady`. -/
theorem steady_cursorPage (cursor : Cursor) (direction : PageDirection) :
    Steady (cursorPage sel sort order limit cursor direction) := by
  refine .bind ((steady_totals .cursor sel).both (steady_resolve sel sort cursor))
    fun (totals, position) => ?_
  cases direction with
  | next => exact .bind (steady_find .cursor _) fun _ => .pure _
  | prev => exact .bind (steady_find .cursor _) fun _ => .pure _

/-- `offsetPage` is `Steady`. -/
theorem steady_offsetPage (offset : Nat) : Steady (offsetPage sel sort order limit offset) := by
  refine .bind (steady_totals .offset sel) fun totals => ?_
  by_cases hbeyond : totals.selected ≤ offset ∧ (0 < totals.selected ∨ 0 < offset)
  · simp only [hbeyond]
    exact .bind (.halt _) fun _ => .bind (steady_find .offset _) fun _ => .pure _
  · simp only [hbeyond, if_false]
    exact .bind (steady_find .offset _) fun _ => .pure _

/-- `anchorWindow` is `Steady`. -/
theorem steady_anchorWindow (anchor : Cursor) (span : Nat) :
    Steady (anchorWindow sel sort order anchor span) := by
  refine .bind (steady_guarded .anchor .findOne (.findOne _)) fun found => ?_
  cases found with
  | none => exact .halt _
  | some note =>
    exact .bind ((steady_guarded .anchor .count (.count _)).both ((steady_totals .anchor sel).both
      ((steady_find .anchor _).both (steady_find .anchor _)))) fun _ => .pure _

/-- `fetch` is `Steady`. -/
theorem steady_fetch (owner : Owner) (r : ListRequest) : Steady (fetch owner r) := by
  cases hr : r.start with
  | cursor cursor direction =>
    cases cursor with
    | none =>
      simp only [fetch, hr, firstPage]
      exact .bind ((steady_totals .cursor _).both (steady_find .cursor _)) fun _ => .pure _
    | some cursor =>
      simp only [fetch, hr]
      exact steady_cursorPage cursor direction
  | offset offset =>
    simp only [fetch, hr]
    exact steady_offsetPage offset
  | anchor anchor span =>
    simp only [fetch, hr]
    exact steady_anchorWindow anchor span

/-- A page that `fetch` gives, on any connection, is the `outcome`. -/
theorem outcome_of_fetch {c c' : Connection} {owner : Owner} {r : ListRequest} {page : Page}
    (h : fetch owner r c = (.ok page, c')) : outcome c.store owner r = .ok page := by
  obtain ⟨-, hends⟩ := steady_fetch owner r h
  have hquiet := (ends_fetch c.store owner r).on_eq.symm.trans hends.on_eq
  cases ho : outcome c.store owner r with
  | error e => simp [ho, Except.mapError] at hquiet
  | ok page' =>
    simp only [ho, Except.mapError, Prod.mk.injEq, Except.ok.injEq, and_true] at hquiet
    rw [hquiet]

end Listing

/-! ## How many notes a page holds -/

namespace Store

variable {s : Store} {sel : Selection} {sort : SortBy} {order : SortOrder} {p : Position}

/-- The number of `rowsAfter`, as a filter of the selected notes. -/
theorem length_rowsAfter : (s.rowsAfter sel sort order p).length
    = ((s.notes.filter sel.accepts).filter
        fun n => decide (Precedes order p (.ofNote n sort))).length := by
  rw [rowsAfter, (s.select_perm _ _).length_eq, List.filter_filter]
  simp only [Bool.and_comm]

/-- `Totals.selected`, as a filter of the notes. -/
theorem selected_eq_length_filter : (s.totals sel).selected = (s.notes.filter sel.accepts).length :=
  List.countP_eq_length_filter

/-- `rowsAfter` are no more than `Totals.selected`. -/
theorem length_rowsAfter_le :
    (s.rowsAfter sel sort order p).length ≤ (s.totals sel).selected := by
  rw [length_rowsAfter, selected_eq_length_filter]
  exact List.length_filter_le _ _

/-- Two filters that exclude each other, and that some element fails both, keep fewer elements than
there are. -/
theorem length_filter_add_filter_lt {notes : List Note} {n : Note} {p q : Note → Bool}
    (hn : n ∈ notes) (hp : p n = false) (hq : q n = false)
    (hexclude : ∀ m, q m = true → p m = false) :
    (notes.filter p).length + (notes.filter q).length < notes.length := by
  -- What has the second property is among what has not the first one, and so is the note.
  have hamong : notes.filter q = (notes.filter (!p ·)).filter q := by
    rw [List.filter_filter]
    refine List.filter_congr fun m _ => ?_
    cases hm : q m with
    | false => rfl
    | true => rw [hexclude m hm, Bool.not_false, Bool.and_true]
  have hless : (notes.filter q).length < (notes.filter (!p ·)).length := by
    rw [hamong]
    exact List.length_filter_lt_length_iff_exists.2
      ⟨n, List.mem_filter.2 ⟨hn, by simp [hp]⟩, by simp [hq]⟩
  have hcut := List.length_eq_length_filter_add (l := notes) p
  omega

/-- The rows on both sides of a selected note are fewer than `Totals.selected`. -/
theorem length_rowsAround (sort : SortBy) (order : SortOrder) {n : Note} (hn : n ∈ s.notes)
    (haccepts : sel.accepts n = true) :
    (s.rowsAfter sel sort order.reversed (.ofNote n sort)).length
      + (s.rowsAfter sel sort order (.ofNote n sort)).length < (s.totals sel).selected := by
  rw [length_rowsAfter, length_rowsAfter, selected_eq_length_filter]
  refine length_filter_add_filter_lt (List.mem_filter.2 ⟨hn, haccepts⟩)
    (decide_eq_false (Precedes.irrefl _)) (decide_eq_false (Precedes.irrefl _)) fun m hm => ?_
  refine decide_eq_false fun hbefore => ?_
  rw [precedes_reversed] at hbefore
  exact (of_decide_eq_true hm).asymm hbefore

end Store

namespace Listing

/-- A page of `outcome` has at most `Totals.selected` notes. -/
theorem length_notes_le {s : Store} {owner : Owner} {r : ListRequest} {page : Page}
    (h : outcome s owner r = .ok page) : page.notes.length ≤ page.totals.selected := by
  have hlisted : (s.listed (r.selection owner) r.sort r.order).length
      = (s.totals (r.selection owner)).selected := s.length_listed _ _ _
  rw [totals_of_outcome h]
  cases comesTo_of_outcome h with
  | first =>
    rw [← hlisted]
    exact List.length_take_le' _ _
  | after => exact Nat.le_trans (List.length_take_le' _ _) Store.length_rowsAfter_le
  | before =>
    rw [pageBefore, List.length_reverse]
    exact Nat.le_trans (List.length_take_le' _ _) Store.length_rowsAfter_le
  | behind =>
    rw [← hlisted]
    refine Nat.le_trans (List.length_take_le' _ _) ?_
    rw [List.length_drop]
    exact Nat.sub_le _ _
  | @around anchor span n _ hn =>
    have hfound := List.find?_some hn
    have haround := Store.length_rowsAround r.sort r.order (List.mem_of_find?_eq_some hn)
      (Bool.and_eq_true_iff.1 hfound).1
    simp only [pageAround, List.length_append, List.length_reverse, List.length_cons,
      List.length_take]
    omega

/-- The totals of every page that `fetch` gives, on any connection: `selected` counts the owner's
notes with the color and the text that are asked for, `owned` the owner's notes, and `Store.count`
of the two filters is the same. They are equal for any other page with the same search and color,
whatever its limit, start, sort and order. `selected` is at most `owned`, and the page has at most
`selected` notes. -/
theorem fetch_totals_exact {c c' : Connection} {owner : Owner} {r : ListRequest} {page : Page}
    (h : fetch owner r c = (.ok page, c')) :
    page.totals.selected = c.store.notes.countP
        (fun n => n.owner == owner && r.color.all (n.color == ·) && r.search.all n.hasText)
    ∧ page.totals.owned = c.store.notes.countP (·.owner == owner)
    ∧ c.store.count (r.selection owner).filter = .ok page.totals.selected
    ∧ c.store.count (.ownedBy owner) = .ok page.totals.owned
    ∧ (∀ (d d' : Connection) (r' : ListRequest) (page' : Page), d.store = c.store →
        r'.search = r.search → r'.color = r.color → fetch owner r' d = (.ok page', d') →
        page'.totals = page.totals)
    ∧ page.totals.selected ≤ page.totals.owned
    ∧ page.notes.length ≤ page.totals.selected := by
  have houtcome := outcome_of_fetch h
  have htotals := totals_of_outcome houtcome
  refine ⟨?_, ?_, ?_, ?_, fun d d' r' page' hd hsearch hcolor h' => ?_, ?_,
    length_notes_le houtcome⟩
  · rw [htotals]
    rfl
  · rw [htotals]
    rfl
  · rw [htotals, Store.count, Selection.compile_filter]
    rfl
  · rw [htotals, Store.count, Filter.compile_ownedBy]
    rfl
  · have hselection : r'.selection owner = r.selection owner := by
      simp only [ListRequest.selection, hsearch, hcolor]
    rw [totals_of_outcome (outcome_of_fetch h'), hd, hselection, htotals]
  · rw [htotals]
    exact List.countP_mono_left fun n _ hn => beq_iff_eq.2 (Selection.owner_of_accepts hn)

/-- `fetch_totals_exact` for `teaStore` on a connection whose caller gives up once the first notes
have been read. -/
theorem fetch_totals_exact_teaStore :
    let c : Connection := { store := teaStore, faults := [⟨.find, 1, .cancelAfter⟩] }
    ∃ page c', fetch ⟨"ann"⟩ teaRequest c = (.ok page, c') ∧ c'.cancelled = true
      ∧ page.totals.selected = 3 ∧ page.totals.owned = 3 ∧ page.notes.length ≤ 3 := by
  intro c
  have hcomes : (fetch ⟨"ann"⟩ teaRequest c).1.isOk = true
      ∧ (fetch ⟨"ann"⟩ teaRequest c).2.cancelled = true := by decide +kernel
  cases hfetch : fetch ⟨"ann"⟩ teaRequest c with
  | mk result c' =>
    rw [hfetch] at hcomes
    cases result with
    | error halt => cases hcomes.1
    | ok page =>
      obtain ⟨hselected, howned, -, -, -, -, hlength⟩ := fetch_totals_exact hfetch
      have hthree : page.totals.selected = 3 := hselected.trans (by decide +kernel)
      exact ⟨page, c', rfl, hcomes.2, hthree, howned.trans (by decide +kernel), hthree ▸ hlength⟩

end Listing

end NotePager

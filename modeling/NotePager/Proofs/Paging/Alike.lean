import NotePager.Proofs.Paging.Outcome
import NotePager.Proofs.Store.Alike

/-!
# Listings that come to the same

A listing calls a store in three ways only: it counts, it asks for windows of notes in an order
without ties, and it asks for a note by its identifier. What it asks for is the selection with
further conditions. So it comes to the same on two stores that answer those calls the same
(`Store.ListsAlike`), and for two selections that mean the same (`Selection.Alike`), whatever faults
its calls meet (`Listing.alike_fetch`).
-/

namespace NotePager

open Access

/-! ## Stores and selections -/

/-- The calls that listings make are answered alike by both stores. -/
structure Store.ListsAlike (s t : Store) : Prop where
  count : ∀ f, s.count f = t.count f
  find : ∀ (q : Query) (sort : SortBy) (order : SortOrder), q.sort = sort.keys order →
    s.find q = t.find q
  named : ∀ (q : Query) (p : Predicate) (id : NoteId), q.filter.compile = .ok p →
    (∀ n, p n = true → n.id = id) → s.find q = t.find q

/-- Every store `ListsAlike` itself. -/
theorem Store.ListsAlike.refl (s : Store) : s.ListsAlike s :=
  ⟨fun _ => rfl, fun _ _ _ _ => rfl, fun _ _ _ _ _ => rfl⟩

/-- Stores that are `ListsAlike` have the same `Store.count` for filters with the same
`Filter.compile`. -/
theorem Store.ListsAlike.count_congr {s t : Store} {f f' : Filter} (h : s.ListsAlike t)
    (hf : f.compile = f'.compile) : s.count f = t.count f' := by
  rw [h.count, Store.count, Store.count, hf]

/-- Stores that are `ListsAlike` have the same `Store.find` in the order of a listing, for filters
with the same `Filter.compile`. -/
theorem Store.ListsAlike.find_congr {s t : Store} {f f' : Filter} (h : s.ListsAlike t)
    (hf : f.compile = f'.compile) (sort : SortBy) (order : SortOrder) (skip : Nat)
    (limit : Option Nat) :
    s.find ⟨f, sort.keys order, skip, limit⟩ = t.find ⟨f', sort.keys order, skip, limit⟩ := by
  rw [h.find _ sort order rfl, Store.find, Store.find, hf]

/-- Stores that are `ListsAlike` have the same `Store.find` for the first note, if the filters have
the same `Filter.compile` and let through one identifier only. -/
theorem Store.ListsAlike.named_congr {s t : Store} {f f' : Filter} {p : Predicate} {id : NoteId}
    (h : s.ListsAlike t) (hf : f.compile = f'.compile) (hp : f.compile = .ok p)
    (hid : ∀ n, p n = true → n.id = id) :
    s.find { filter := f, limit := some 1 } = t.find { filter := f', limit := some 1 } := by
  rw [h.named _ p id hp hid, Store.find, Store.find, hf]

/-- The selections are about the same notes of the same owner, in whatever words. -/
structure Selection.Alike (sel sel' : Selection) : Prop where
  owner : sel.owner = sel'.owner
  narrowed : sel.isNarrowed = sel'.isNarrowed
  compile : sel.filter.compile = sel'.filter.compile

/-- Every selection is `Selection.Alike` to itself. -/
theorem Selection.Alike.refl (sel : Selection) : sel.Alike sel := ⟨rfl, rfl, rfl⟩

/-- Filters of selections that are `Selection.Alike` compile the same with any further condition by
`Filter.and`. -/
theorem Selection.Alike.compile_and {sel sel' : Selection} (h : sel.Alike sel') (f : Filter) :
    (sel.filter.and f).compile = (sel'.filter.and f).compile := by
  rw [Filter.compile_and_eq, Filter.compile_and_eq, h.compile]

/-! ## Listings -/

namespace Listing

/-- `guarded` calls are `Alike` when the calls are. -/
theorem alike_guarded {s t : Store} {call call' : Access StoreError α} (mode : PageMode)
    (operation : StoreOperation) (h : Alike s t call call') :
    Alike s t (guarded mode operation call) (guarded mode operation call') := by
  intro c d hcd
  by_cases hc : c.cancelled = true
  · exact ⟨_, c, d, if_pos hc, if_pos (hcd.cancelled ▸ hc), hcd⟩
  · have hd : ¬ d.cancelled = true := hcd.cancelled ▸ hc
    obtain ⟨outcome, c₁, d₁, hc₁, hd₁, hcd₁⟩ := h.mapError (ListError.store mode) hcd
    rcases outcome with (e | w | _) | a
    all_goals
      exact ⟨_, c₁, d₁, (if_neg hc).trans (by rw [hc₁]), (if_neg hd).trans (by rw [hd₁]), hcd₁⟩

section
variable {s t : Store} {sel sel' : Selection} (h : s.ListsAlike t) (hsel : sel.Alike sel')
include h

/-- `Access.count` of filters that compile the same is `Alike` on stores that are `ListsAlike`. -/
theorem alike_count {f f' : Filter} (hf : f.compile = f'.compile) (mode : PageMode) :
    Alike s t (guarded mode .count (.count f)) (guarded mode .count (.count f')) :=
  alike_guarded mode .count (.count (h.count_congr hf))

/-- `Access.find` of `queryFirst` for filters that compile the same is `Alike` on stores that are
`ListsAlike`. -/
theorem alike_queryFirst {f f' : Filter} (hf : f.compile = f'.compile) (mode : PageMode)
    (sort : SortBy) (order : SortOrder) (limit : Nat) :
    Alike s t (guarded mode .find (.find (queryFirst f sort order limit)))
      (guarded mode .find (.find (queryFirst f' sort order limit))) :=
  alike_guarded mode .find (.find (h.find_congr hf sort order 0 (some limit)))

include hsel

/-- `totals` is `Alike` for selections that are. -/
theorem alike_totals (mode : PageMode) : Alike s t (totals mode sel) (totals mode sel') := by
  have hselected := alike_count h hsel.compile mode
  have howned := alike_count h (congrArg (Filter.compile ∘ Filter.ownedBy) hsel.owner) mode
  by_cases hn : sel.isNarrowed
  · simp only [totals, ← hsel.narrowed, hn, if_true]
    exact .bind (hselected.both howned) fun _ => .pure _
  · simp only [totals, ← hsel.narrowed, hn]
    exact .bind hselected fun _ => .pure _

/-- `resolve` is `Alike` for selections that are: it asks for a note by its identifier. -/
theorem alike_resolve (sort : SortBy) (cursor : Cursor) :
    Alike s t (resolve sel sort cursor) (resolve sel' sort cursor) := by
  cases hc : Position.ofCursor? cursor with
  | some position =>
    simp only [resolve, hc]
    exact .pure position
  | none =>
    simp only [resolve, hc, hsel.owner]
    have hcompile := Filter.compile_ownedNote sel'.owner cursor.id
    have hfind : Alike s t (.findOne (.ownedNote sel'.owner cursor.id))
        (.findOne (.ownedNote sel'.owner cursor.id)) :=
      .findOne (h.named_congr rfl hcompile fun n hn => beq_iff_eq.1 (Bool.and_eq_true_iff.1 hn).2)
    refine .bind (alike_guarded .cursor .findOne hfind) fun found => ?_
    cases found with
    | none => exact .halt _
    | some note => exact .pure _

/-- `cursorPage` is `Alike` for selections that are. -/
theorem alike_cursorPage (sort : SortBy) (order : SortOrder) (limit : Nat) (cursor : Cursor)
    (direction : PageDirection) : Alike s t (cursorPage sel sort order limit cursor direction)
      (cursorPage sel' sort order limit cursor direction) := by
  have hrows (f : Filter) (order : SortOrder) :=
    alike_queryFirst h (hsel.compile_and f) .cursor sort order (limit + 1)
  refine .bind ((alike_totals h hsel .cursor).both (alike_resolve h hsel sort cursor))
    fun (totals, position) => ?_
  cases direction with
  | next => exact .bind (hrows _ order) fun _ => .pure _
  | prev => exact .bind (hrows _ order.reversed) fun _ => .pure _

/-- `offsetPage` is `Alike` for selections that are. -/
theorem alike_offsetPage (sort : SortBy) (order : SortOrder) (limit offset : Nat) :
    Alike s t (offsetPage sel sort order limit offset)
      (offsetPage sel' sort order limit offset) := by
  refine .bind (alike_totals h hsel .offset) fun totals => ?_
  have hfind := alike_guarded .offset .find
    (.find (h.find_congr hsel.compile sort order offset (some limit)))
  by_cases hbeyond : totals.selected ≤ offset ∧ (0 < totals.selected ∨ 0 < offset)
  · simp only [hbeyond]
    exact .bind (.halt _) fun _ => .bind hfind fun _ => .pure _
  · simp only [hbeyond, if_false]
    exact .bind hfind fun _ => .pure _

/-- `anchorWindow` is `Alike` for selections that are. -/
theorem alike_anchorWindow (sort : SortBy) (order : SortOrder) (anchor : Cursor) (span : Nat) :
    Alike s t (anchorWindow sel sort order anchor span)
      (anchorWindow sel' sort order anchor span) := by
  have hfind : Alike s t (.findOne (sel.filter.and (.equal .id (.id anchor.id))))
      (.findOne (sel'.filter.and (.equal .id (.id anchor.id)))) :=
    .findOne (h.named_congr (hsel.compile_and _) (compile_filter_id sel anchor.id) fun n hn =>
      beq_iff_eq.1 (Bool.and_eq_true_iff.1 hn).2)
  refine .bind (alike_guarded .anchor .findOne hfind) fun found => ?_
  cases found with
  | none => exact .halt _
  | some note =>
    have hindex (f : Filter) := alike_count h (hsel.compile_and f) .anchor
    have hside (f : Filter) (order : SortOrder) :=
      alike_queryFirst h (hsel.compile_and f) .anchor sort order (span + 1)
    exact .bind ((hindex _).both ((alike_totals h hsel .anchor).both
      ((hside _ order.reversed).both (hside _ order)))) fun _ => .pure _

omit hsel

/-- `Listing.fetch` is `Alike`, whichever page is asked for, for requests that differ in search and
color only and have selections that are `Selection.Alike`. -/
theorem alike_fetch {owner : Owner} {r r' : ListRequest}
    (hsel : (r.selection owner).Alike (r'.selection owner))
    (hrest : r' = { r with search := r'.search, color := r'.color }) :
    Alike s t (fetch owner r) (fetch owner r') := by
  have hlimit : r'.limit = r.limit := by rw [hrest]
  have hstart : r'.start = r.start := by rw [hrest]
  have hsort : r'.sort = r.sort := by rw [hrest]
  have horder : r'.order = r.order := by rw [hrest]
  simp only [fetch, hlimit, hstart, hsort, horder]
  cases r.start with
  | cursor cursor direction =>
    cases cursor with
    | none =>
      have hrows := alike_queryFirst h hsel.compile .cursor r.sort r.order (r.limit + 1)
      exact .bind ((alike_totals h hsel .cursor).both hrows) fun _ => .pure _
    | some cursor => exact alike_cursorPage h hsel r.sort r.order r.limit cursor direction
  | offset offset => exact alike_offsetPage h hsel r.sort r.order r.limit offset
  | anchor anchor span => exact alike_anchorWindow h hsel r.sort r.order anchor span

end

end Listing

end NotePager

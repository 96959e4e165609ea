import NotePager.Proofs.Paging.Walk

/-!
# Walking back

From every page of a walk forward but the first, the cursor of the previous page leads back to it,
note by note: read backwards from the cursor (`Listing.pageOf_link_back`), or forwards in the
reversed order. So a walk backward goes through the pages of the walk forward the other way round.
-/

namespace NotePager.Listing

variable {s : Store} {owner : Owner} {p q : Parameters} {r : ListRequest} {i : Nat}
  {pages : List Page}

/-- A page as it is answered from the page behind it: `hasMore` says whether there are pages before
it, not behind it. -/
def backPage (i : Nat) (page : Page) : Page := { page with hasMore := decide (0 < i) }

/-- The pages from the second on are not empty. -/
theorem pageOf_ne_nil (hlimit : 0 < r.limit) (hi : i + 1 < pageCountOf s owner r) :
    (pageOf s owner r (i + 1)).notes ≠ [] := by
  have hlt := (succ_lt_pageCountOf_iff hlimit).1 hi
  refine List.ne_nil_of_length_pos ?_
  simp only [pageOf, pageAt, List.length_take, List.length_drop]
  omega

/-- The `prev` of page `i + 1` leads to `backPage` of page `i` with direction `.prev`, and to its
notes reversed in `order.reversed`. -/
theorem pageOf_link_back (hs : s.DistinctIds) (hp : p.validate = .ok r)
    (hstart : r.start = .cursor none .next) (hi : i + 1 < pageCountOf s owner r) :
    ∃ raw, (pageOf s owner r (i + 1)).prev = some raw
      ∧ ask s owner (p.beforeCursor raw) = .ok (backPage i (pageOf s owner r i))
      ∧ ∃ turned, ask s owner ({ p with order := some r.order.reversed.name }.fromCursor raw)
          = .ok turned ∧ turned.notes = (pageOf s owner r i).notes.reverse := by
  have hlimit : 0 < r.limit := (Parameters.limit_bounds hp).1
  have hlt := (succ_lt_pageCountOf_iff hlimit).1 hi
  have hlisted := eq_take_append_drop hlt
  have hback := ask_beforeCursor hs hp hstart hlisted
  have hturned := ask_fromCursor_reversed hs hp hstart hlisted
  have hpage : pageBefore r.sort r.limit (s.totals (r.selection owner))
      ((s.listed (r.selection owner) r.sort r.order).take ((i + 1) * r.limit)).reverse
      = backPage i (pageOf s owner r i) := pageBefore_eq hlimit hlt
  rw [hpage] at hback
  refine ⟨_, ?_, hback, _, hturned, ?_⟩
  · simp only [pageOf, pageAt, Nat.succ_ne_zero, if_false, List.getElem?_eq_getElem hlt, cursorAt,
      Option.map_some]
  · have hnotes := congrArg Page.notes hpage
    exact List.reverse_eq_iff.1 hnotes

/-- From page `i`, `BackwardWalk` goes through the pages `i`, `i - 1`, …, `0`. -/
theorem backwardWalk_from (hs : s.DistinctIds) (hp : p.validate = .ok r)
    (hstart : r.start = .cursor none .next) (hi : i + 1 < pageCountOf s owner r)
    (hfollow : ∀ raw, q.beforeCursor raw = p.beforeCursor raw)
    (hask : ask s owner q = .ok (backPage i (pageOf s owner r i))) :
    BackwardWalk s owner q
      ((List.range (i + 1)).map fun j => backPage j (pageOf s owner r j)).reverse := by
  induction i generalizing q with
  | zero => exact .last hask rfl
  | succ i ih =>
    have hlink : i + 1 < pageCountOf s owner r := by omega
    obtain ⟨raw, hprev, hask', -⟩ := pageOf_link_back hs hp hstart hlink
    have hrest := ih (q := p.beforeCursor raw) hlink (fun _ => rfl) hask'
    rw [← hfollow] at hrest
    rw [List.range_succ, List.map_append, List.reverse_append]
    exact .step hask hprev hrest

/-- Page number `i` of a `ForwardWalk` is `pageOf` of `i`. -/
theorem getElem?_forwardWalk (hs : s.DistinctIds) (hp : p.validate = .ok r)
    (hstart : r.start = .cursor none .next) (hwalk : ForwardWalk s owner p pages) {page : Page}
    (hpage : pages[i]? = some page) : i < pageCountOf s owner r ∧ page = pageOf s owner r i := by
  rw [hwalk.unique (forwardWalk_pages hs owner hp hstart), List.getElem?_map,
    Option.map_eq_some_iff] at hpage
  obtain ⟨j, hj, rfl⟩ := hpage
  obtain ⟨hlt, rfl⟩ := List.getElem?_eq_some_iff.1 hj
  rw [List.length_range] at hlt
  rw [List.getElem_range]
  exact ⟨hlt, rfl⟩

/-- The first pages of a `ForwardWalk`, each as `backPage`. -/
theorem take_forwardWalk (hs : s.DistinctIds) (hp : p.validate = .ok r)
    (hstart : r.start = .cursor none .next) (hwalk : ForwardWalk s owner p pages)
    (hi : i ≤ pageCountOf s owner r) : (pages.take i).mapIdx backPage
      = (List.range i).map fun j => backPage j (pageOf s owner r j) := by
  rw [hwalk.unique (forwardWalk_pages hs owner hp hstart), ← List.map_take, List.take_range,
    Nat.min_eq_left hi]
  refine List.ext_getElem (by simp) fun j hj hj' => ?_
  simp

/-- For two consecutive pages of a `ForwardWalk`, the later one is not empty, and its `prev` with
direction `.prev` gives the earlier one, except that `hasMore` says whether that is not the first.
The same cursor in `order.reversed` gives the notes of the earlier page reversed. So `BackwardWalk`
from the `prev` of a page goes through the pages before it down to the first. -/
theorem backwardWalk_forwardWalk (hs : s.DistinctIds) (hp : p.validate = .ok r)
    (hstart : r.start = .cursor none .next) (hwalk : ForwardWalk s owner p pages) :
    (∀ (i : Nat) (page behind : Page), pages[i]? = some page → pages[i + 1]? = some behind →
      behind.notes ≠ [] ∧ ∃ raw, behind.prev = some raw
        ∧ ask s owner (p.beforeCursor raw) = .ok { page with hasMore := decide (0 < i) }
        ∧ ∃ turned, ask s owner ({ p with order := some r.order.reversed.name }.fromCursor raw)
            = .ok turned ∧ turned.notes = page.notes.reverse)
    ∧ (∀ page, pages[0]? = some page → page.prev = none)
    ∧ ∀ (i : Nat) (page : Page), pages[i + 1]? = some page → ∃ raw, page.prev = some raw
        ∧ ∀ back, BackwardWalk s owner (p.beforeCursor raw) back
          ↔ back = ((pages.take (i + 1)).mapIdx fun j earlier =>
              { earlier with hasMore := decide (0 < j) }).reverse := by
  have hpages {i : Nat} {page : Page} (h : pages[i]? = some page) :=
    getElem?_forwardWalk hs hp hstart hwalk h
  refine ⟨fun i page behind hpage hbehind => ?_, fun page hpage => ?_, fun i page hpage => ?_⟩
  · obtain ⟨-, rfl⟩ := hpages hpage
    obtain ⟨hi, rfl⟩ := hpages hbehind
    obtain ⟨raw, hprev, hback, hturned⟩ := pageOf_link_back hs hp hstart hi
    exact ⟨pageOf_ne_nil (Parameters.limit_bounds hp).1 hi, raw, hprev, hback, hturned⟩
  · obtain ⟨-, rfl⟩ := hpages hpage
    rfl
  · obtain ⟨hi, rfl⟩ := hpages hpage
    obtain ⟨raw, hprev, hask, -⟩ := pageOf_link_back hs hp hstart hi
    have hback := backwardWalk_from (q := p.beforeCursor raw) hs hp hstart hi (fun _ => rfl) hask
    rw [← take_forwardWalk hs hp hstart hwalk hi.le] at hback
    exact ⟨raw, hprev, fun back => ⟨fun h => h.unique hback, fun h => h ▸ hback⟩⟩

/-- `backwardWalk_forwardWalk` for the two pages of `teaRequest` in `teaStore`. -/
theorem backwardWalk_forwardWalk_teaStore : ∃ pages,
    ForwardWalk teaStore ⟨"ann"⟩ (Parameters.ofRequest teaRequest) pages ∧ pages.length = 2
      ∧ ∀ page behind, pages[0]? = some page → pages[1]? = some behind →
        ∃ raw, behind.prev = some raw
          ∧ ask teaStore ⟨"ann"⟩ ((Parameters.ofRequest teaRequest).beforeCursor raw)
            = .ok { page with hasMore := false } := by
  have hdistinct : teaStore.DistinctIds := by decide
  have hwalk := forwardWalk_pages hdistinct ⟨"ann"⟩ validate_teaRequest rfl
  obtain ⟨hlinks, -, -⟩ := backwardWalk_forwardWalk hdistinct validate_teaRequest rfl hwalk
  refine ⟨_, hwalk, by decide, fun page behind hpage hbehind => ?_⟩
  obtain ⟨-, raw, hprev, hback, -⟩ := hlinks 0 page behind hpage hbehind
  exact ⟨raw, hprev, hback⟩

end NotePager.Listing

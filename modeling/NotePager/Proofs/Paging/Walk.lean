import NotePager.Proofs.Paging.Seam

/-!
# Walking through a listing

A walk asks for a page, then with the cursor of that page for the page next to it, and so on until a
page has no cursor (`Listing.Walk`). Going forward, the notes of a listing are cut into pieces as
long as a page: `Listing.pageAt` is the page with a number, and every page but the last leads to the
next one (`Listing.pageOf_link`). So a walk forward goes through the pages by their numbers
(`Listing.forwardWalk_pages`) and shows every note of the listing once.
-/

namespace NotePager.Listing

/-! ## Walks -/

/-- The pages that are answered with some parameters, then with the `link` of each page, until a
page has none. -/
inductive Walk (ask : Parameters → Except (Halt ListError) Page) (link : Page → Option String)
    (follow : Parameters → String → Parameters) : Parameters → List Page → Prop
  | last (hpage : ask p = .ok page) (hlink : link page = none) : Walk ask link follow p [page]
  | step (hpage : ask p = .ok page) (hlink : link page = some raw)
    (hrest : Walk ask link follow (follow p raw) pages) : Walk ask link follow p (page :: pages)

/-- `Walk` determines its pages. -/
theorem Walk.unique {ask : Parameters → Except (Halt ListError) Page} {link : Page → Option String}
    {follow : Parameters → String → Parameters} {p : Parameters} {pages pages' : List Page}
    (h : Walk ask link follow p pages) (h' : Walk ask link follow p pages') : pages = pages' := by
  induction h generalizing pages' with
  | last hpage hlink =>
    cases h' with
    | last hpage' hlink' =>
      cases hpage.symm.trans hpage'
      rfl
    | step hpage' hlink' hrest' =>
      cases hpage.symm.trans hpage'
      cases hlink.symm.trans hlink'
  | step hpage hlink hrest ih =>
    cases h' with
    | last hpage' hlink' =>
      cases hpage.symm.trans hpage'
      cases hlink.symm.trans hlink'
    | step hpage' hlink' hrest' =>
      cases hpage.symm.trans hpage'
      cases hlink.symm.trans hlink'
      rw [ih hrest']

/-- A walk forward, from page to next page. -/
def ForwardWalk (s : Store) (owner : Owner) : Parameters → List Page → Prop :=
  Walk (ask s owner) Page.next Parameters.fromCursor

/-- A walk backward, from page to previous page. -/
def BackwardWalk (s : Store) (owner : Owner) : Parameters → List Page → Prop :=
  Walk (ask s owner) Page.prev Parameters.beforeCursor

/-! ## Pages by number -/

/-- Page number `i` of the listed notes, counted from 0. -/
def pageAt (sort : SortBy) (limit : Nat) (totals : Totals) (listed : List Note) (i : Nat) :
    Page where
  notes := (listed.drop (i * limit)).take limit
  hasMore := (i + 1) * limit < listed.length
  totals
  prev := if i = 0 then none else cursorAt sort listed[i * limit]?
  next := if (i + 1) * limit < listed.length then cursorAt sort listed[(i + 1) * limit - 1]?
    else none

/-- How many pages of this size there are. A listing without notes has one page all the same. -/
def pageCount (limit length : Nat) : Nat := max 1 ((length + limit - 1) / limit)

/-- `i + 1` is below `pageCount` when the notes go on behind page `i`. -/
theorem succ_lt_pageCount_iff {limit length i : Nat} (hlimit : 0 < limit) :
    i + 1 < pageCount limit length ↔ (i + 1) * limit < length := by
  have hdiv : i + 1 < (length + limit - 1) / limit ↔ (i + 1 + 1) * limit ≤ length + limit - 1 :=
    Nat.le_div_iff_mul_le hlimit
  rw [Nat.succ_mul (i + 1)] at hdiv
  rw [pageCount]
  omega

section
variable {sort : SortBy} {limit : Nat} {totals : Totals} {listed : List Note} {i : Nat}

/-- The first note of a page. -/
theorem head?_page (hlimit : 0 < limit) (k : Nat) :
    ((listed.drop k).take limit).head? = listed[k]? := by
  rw [List.head?_take, if_neg (by omega), List.head?_drop]

/-- The last note of a full page. -/
theorem getLast?_page (hlimit : 0 < limit) {k : Nat} (h : k + limit ≤ listed.length) :
    ((listed.drop k).take limit).getLast? = listed[k + limit - 1]? := by
  have hlast : k + (limit - 1) = k + limit - 1 := by omega
  have hget : listed[k + limit - 1]? = some listed[k + limit - 1] :=
    List.getElem?_eq_getElem (by omega)
  rw [List.getLast?_take, if_neg (by omega), List.getElem?_drop, hlast, hget]
  rfl

/-- `pageFirst` is `pageAt` of 0. -/
theorem pageFirst_eq (hlimit : 0 < limit) :
    pageFirst sort limit totals listed = pageAt sort limit totals listed 0 := by
  have hnext : limit < listed.length → (listed.take limit).getLast? = listed[limit - 1]? := by
    intro h
    have hpage : ((listed.drop 0).take limit).getLast? = listed[0 + limit - 1]? :=
      getLast?_page hlimit (by omega)
    simpa using hpage
  simp only [pageFirst, pageAfter, pageAt, Nat.zero_mul, List.drop_zero, Nat.zero_add, Nat.one_mul,
    if_true]
  by_cases h : limit < listed.length
  · rw [hnext h]
  · simp only [h, if_false]

/-- `pageAfter` of the notes behind page `i` is `pageAt` of `i + 1`. -/
theorem pageAfter_eq (hlimit : 0 < limit) :
    pageAfter sort limit totals (listed.drop ((i + 1) * limit))
      = pageAt sort limit totals listed (i + 1) := by
  have hsucc : (i + 1 + 1) * limit = (i + 1) * limit + limit := Nat.succ_mul (i + 1) limit
  have hlength : limit < (listed.drop ((i + 1) * limit)).length
      ↔ (i + 1 + 1) * limit < listed.length := by
    rw [List.length_drop]
    omega
  simp only [pageAfter, pageAt, hlength, head?_page hlimit, Nat.succ_ne_zero, if_false]
  by_cases h : (i + 1 + 1) * limit < listed.length
  · rw [getLast?_page hlimit (by omega), hsucc]
  · simp only [h, if_false]

/-- `pageBefore` of the notes in front of page `i + 1`, reversed, is `pageAt` of `i`, except that
`hasMore` says whether that is not the first. -/
theorem pageBefore_eq (hlimit : 0 < limit) (h : (i + 1) * limit < listed.length) :
    pageBefore sort limit totals (listed.take ((i + 1) * limit)).reverse
      = { pageAt sort limit totals listed i with hasMore := decide (0 < i) } := by
  have hsucc : (i + 1) * limit = i * limit + limit := Nat.succ_mul i limit
  have hlength : (listed.take ((i + 1) * limit)).length = (i + 1) * limit := by
    rw [List.length_take]
    omega
  have hmore : limit < (i + 1) * limit ↔ 0 < i := by
    rw [hsucc, Nat.lt_add_left_iff_pos, Nat.mul_pos_iff_of_pos_right hlimit]
  have hnotes : ((listed.take ((i + 1) * limit)).reverse.take limit).reverse
      = (listed.drop (i * limit)).take limit := by
    have hfront : (i + 1) * limit - limit = i * limit := by omega
    have hwidth : (i + 1) * limit - i * limit = limit := by omega
    rw [List.take_reverse, List.reverse_reverse, hlength, List.drop_take, hfront, hwidth]
  simp only [pageBefore, pageAt, hnotes, List.length_reverse, hlength, hmore, head?_page hlimit, h,
    if_true]
  rw [getLast?_page hlimit (by omega), hsucc]
  by_cases hi : i = 0
  · simp [hi]
  · simp [hi, Nat.pos_of_ne_zero hi]

end

/-! ## The forward walk -/

/-- Page number `i` of the listing that a request is about. -/
def pageOf (s : Store) (owner : Owner) (r : ListRequest) (i : Nat) : Page :=
  pageAt r.sort r.limit (s.totals (r.selection owner))
    (s.listed (r.selection owner) r.sort r.order) i

/-- How many pages the listing has that a request is about. -/
def pageCountOf (s : Store) (owner : Owner) (r : ListRequest) : Nat :=
  pageCount r.limit (s.notes.countP (r.selection owner).accepts)

/-- A list, split at its item number `k`. -/
theorem eq_take_append_drop {notes : List Note} {k : Nat} (h : k < notes.length) :
    notes = notes.take k ++ notes[k] :: notes.drop (k + 1) := by
  rw [← List.drop_eq_getElem_cons h, List.take_append_drop]

section
variable {s : Store} {owner : Owner} {p q : Parameters} {r : ListRequest} {i : Nat}

/-- `pageCountOf` is not 0. -/
theorem exists_pageCountOf (s : Store) (owner : Owner) (r : ListRequest) :
    ∃ k, pageCountOf s owner r = k + 1 := by
  have hpos : 1 ≤ pageCountOf s owner r := Nat.le_max_left 1 _
  exact ⟨pageCountOf s owner r - 1, (Nat.sub_add_cancel hpos).symm⟩

/-- `i + 1` is below `pageCountOf` when the listed notes go on behind page `i`. -/
theorem succ_lt_pageCountOf_iff (hlimit : 0 < r.limit) : i + 1 < pageCountOf s owner r
    ↔ (i + 1) * r.limit < (s.listed (r.selection owner) r.sort r.order).length := by
  rw [Store.length_listed]
  exact succ_lt_pageCount_iff hlimit

/-- The last page has neither `hasMore` nor `next`. -/
theorem pageOf_last (hlimit : 0 < r.limit) (hi : pageCountOf s owner r ≤ i + 1) :
    (pageOf s owner r i).hasMore = false ∧ (pageOf s owner r i).next = none := by
  have hend := mt (succ_lt_pageCountOf_iff hlimit).2 (Nat.not_lt.2 hi)
  exact ⟨decide_eq_false hend, if_neg hend⟩

/-- A page that is not the last has `limit` notes and `hasMore`. -/
theorem pageOf_full (hlimit : 0 < r.limit) (hi : i + 1 < pageCountOf s owner r) :
    (pageOf s owner r i).notes.length = r.limit ∧ (pageOf s owner r i).hasMore = true := by
  have hlt := (succ_lt_pageCountOf_iff hlimit).1 hi
  refine ⟨?_, decide_eq_true hlt⟩
  rw [Nat.succ_mul] at hlt
  simp only [pageOf, pageAt, List.length_take, List.length_drop]
  omega

/-- The `next` of page `i` that is not the last leads to page `i + 1`. -/
theorem pageOf_link (hs : s.DistinctIds) (hp : p.validate = .ok r)
    (hstart : r.start = .cursor none .next) (hi : i + 1 < pageCountOf s owner r) :
    ∃ raw, (pageOf s owner r i).next = some raw
      ∧ ask s owner (p.fromCursor raw) = .ok (pageOf s owner r (i + 1)) := by
  have hlimit : 0 < r.limit := (Parameters.limit_bounds hp).1
  have hlt := (succ_lt_pageCountOf_iff hlimit).1 hi
  have hpos : 0 < (i + 1) * r.limit := Nat.mul_pos (Nat.succ_pos i) hlimit
  have hlast : (i + 1) * r.limit - 1 < (s.listed (r.selection owner) r.sort r.order).length := by
    omega
  have hask := ask_fromCursor hs hp hstart (eq_take_append_drop hlast)
  rw [Nat.sub_add_cancel hpos, pageAfter_eq hlimit] at hask
  refine ⟨_, ?_, hask⟩
  simp only [pageOf, pageAt, hlt, if_true, List.getElem?_eq_getElem hlast, cursorAt,
    Option.map_some]

/-- From page `i`, `ForwardWalk` goes through the pages `i`, `i + 1`, … to the last. -/
theorem forwardWalk_from (hs : s.DistinctIds) (hp : p.validate = .ok r)
    (hstart : r.start = .cursor none .next) (hfollow : ∀ raw, q.fromCursor raw = p.fromCursor raw)
    (hask : ask s owner q = .ok (pageOf s owner r i)) {k : Nat}
    (hk : i + (k + 1) = pageCountOf s owner r) :
    ForwardWalk s owner q ((List.range' i (k + 1)).map (pageOf s owner r)) := by
  induction k generalizing q i with
  | zero => exact .last hask (pageOf_last (Parameters.limit_bounds hp).1 hk.ge).2
  | succ k ih =>
    have hlink : i + 1 < pageCountOf s owner r := by omega
    obtain ⟨raw, hnext, hask'⟩ := pageOf_link hs hp hstart hlink
    have hrest := ih (q := p.fromCursor raw) (i := i + 1) (fun _ => rfl) hask' (by omega)
    rw [← hfollow] at hrest
    rw [List.range'_succ, List.map_cons]
    exact .step hask hnext hrest

/-- `ForwardWalk` from the first page goes through all pages. -/
theorem forwardWalk_pages (hs : s.DistinctIds) (owner : Owner) (hp : p.validate = .ok r)
    (hstart : r.start = .cursor none .next) :
    ForwardWalk s owner p ((List.range (pageCountOf s owner r)).map (pageOf s owner r)) := by
  have hlimit : 0 < r.limit := (Parameters.limit_bounds hp).1
  have hask : ask s owner p = .ok (pageOf s owner r 0) := by
    rw [ask_first hp hstart, pageFirst_eq hlimit]
    rfl
  obtain ⟨k, hk⟩ := exists_pageCountOf s owner r
  rw [List.range_eq_range', hk]
  exact forwardWalk_from hs hp hstart (fun _ => rfl) hask (by omega)

/-- The notes of the first `k` pages are the first `k * limit` listed notes. -/
theorem flatMap_firstPages (s : Store) (owner : Owner) (r : ListRequest) (k : Nat) :
    ((List.range k).map (pageOf s owner r)).flatMap Page.notes
      = (s.listed (r.selection owner) r.sort r.order).take (k * r.limit) := by
  induction k with
  | zero => simp
  | succ k ih =>
    rw [List.range_succ, List.map_append, List.flatMap_append, ih, Nat.succ_mul, List.take_add]
    simp [pageOf, pageAt]

/-- The notes of all pages are the listed notes. -/
theorem flatMap_pages (s : Store) (owner : Owner) (hlimit : 0 < r.limit) :
    ((List.range (pageCountOf s owner r)).map (pageOf s owner r)).flatMap Page.notes
      = s.listed (r.selection owner) r.sort r.order := by
  obtain ⟨k, hk⟩ := exists_pageCountOf s owner r
  have hend : ¬ k + 1 < pageCountOf s owner r := by omega
  rw [succ_lt_pageCountOf_iff hlimit, Nat.not_lt] at hend
  rw [flatMap_firstPages, hk, List.take_of_length_le hend]

/-- `ForwardWalk` from a first page has exactly one list of pages. There are as many as the selected
notes need, and one for none; all but the last have `limit` notes and `hasMore`, and the last has
neither `hasMore` nor `next`. Their notes are a permutation of the selected notes, `InOrder`. Every
first page with a `limit` within the bounds, and a search text that is trimmed, not empty and not
too long, has parameters that validate to it. -/
theorem forwardWalk_complete (hs : s.DistinctIds) (owner : Owner)
    (hstart : r.start = .cursor none .next) :
    (minLimit ≤ r.limit ∧ r.limit ≤ maxLimit → (∀ text, r.search = some text →
        text ≠ "" ∧ Text.trim text = text ∧ text.length ≤ maxSearchLength) →
      (Parameters.ofRequest r).validate = .ok r)
    ∧ ∀ p : Parameters, p.validate = .ok r → ∃ pages : List Page,
      (∀ pages', ForwardWalk s owner p pages' ↔ pages' = pages)
      ∧ pages.length
        = max 1 ((s.notes.countP (r.selection owner).accepts + r.limit - 1) / r.limit)
      ∧ (∀ page ∈ pages.dropLast, page.notes.length = r.limit ∧ page.hasMore = true)
      ∧ (∀ page ∈ pages.getLast?, page.hasMore = false ∧ page.next = none)
      ∧ (pages.flatMap Page.notes).Perm (s.notes.filter (r.selection owner).accepts)
      ∧ InOrder r.sort r.order (pages.flatMap Page.notes) := by
  refine ⟨Parameters.validate_ofRequest hstart, fun p hp => ?_⟩
  have hlimit : 0 < r.limit := (Parameters.limit_bounds hp).1
  obtain ⟨k, hk⟩ := exists_pageCountOf s owner r
  have hwalk := forwardWalk_pages (s := s) hs owner hp hstart
  have hpages := flatMap_pages s owner hlimit
  have hlast : (List.range (pageCountOf s owner r)).map (pageOf s owner r)
      = (List.range k).map (pageOf s owner r) ++ [pageOf s owner r k] := by
    rw [hk, List.range_succ, List.map_append, List.map_singleton]
  refine ⟨(List.range (pageCountOf s owner r)).map (pageOf s owner r), fun pages' => ?_, ?_, ?_, ?_,
    ?_, ?_⟩
  · exact ⟨fun h => h.unique hwalk, fun h => h ▸ hwalk⟩
  · rw [List.length_map, List.length_range]
    rfl
  · rw [hlast, List.dropLast_concat]
    intro page hpage
    obtain ⟨i, hi, rfl⟩ := List.mem_map.1 hpage
    have hfull : i + 1 < pageCountOf s owner r := by
      rw [List.mem_range] at hi
      omega
    exact pageOf_full hlimit hfull
  · rw [hlast, List.getLast?_concat]
    intro page hpage
    cases hpage
    exact pageOf_last hlimit hk.le
  · rw [hpages]
    exact s.select_perm _ _
  · rw [hpages]
    exact Store.listed_inOrder hs

end

/-! ## An example -/

/-- A note about tea. -/
def teaNote (id : Nat) (owner : String) : Note where
  id := ⟨BitVec.ofNat 96 id⟩
  owner := ⟨owner⟩
  title := "Tea"
  body := ""
  color := "red"
  createdAt := .ofSeconds 0
  updatedAt := .ofSeconds 0

/-- Three notes of one owner that differ in their identifiers only, behind a note of another
owner. -/
def teaStore : Store := ⟨[teaNote 9 "ben", teaNote 3 "ann", teaNote 1 "ann", teaNote 2 "ann"]⟩

/-- Two red notes a page whose texts hold two letters, by title. -/
def teaRequest : ListRequest where
  limit := 2
  search := some "te"
  color := some "red"
  sort := .title

/-- `Parameters.ofRequest` of `teaRequest` validates to it. -/
theorem validate_teaRequest : (Parameters.ofRequest teaRequest).validate = .ok teaRequest := by
  decide

/-- The listed notes of `teaRequest` in `teaStore`. -/
theorem listed_teaStore : teaStore.listed (teaRequest.selection ⟨"ann"⟩) .title .descending
    = [teaNote 3 "ann", teaNote 2 "ann", teaNote 1 "ann"] := by
  have horder : InOrder .title .descending [teaNote 3 "ann", teaNote 2 "ann", teaNote 1 "ann"] := by
    decide
  refine (Store.listed_inOrder (by decide)).eq_of_perm horder ?_
  exact (teaStore.select_perm _ _).trans (by decide)

/-- `forwardWalk_complete` for `teaRequest` in `teaStore`. -/
theorem forwardWalk_complete_teaStore : ∃ pages,
    ForwardWalk teaStore ⟨"ann"⟩ (Parameters.ofRequest teaRequest) pages ∧ pages.length = 2
      ∧ InOrder .title .descending (pages.flatMap Page.notes) := by
  have hdistinct : teaStore.DistinctIds := by decide
  obtain ⟨-, hwalk⟩ := forwardWalk_complete (r := teaRequest) hdistinct ⟨"ann"⟩ rfl
  obtain ⟨pages, hpages, hlength, -, -, -, horder⟩ := hwalk _ validate_teaRequest
  exact ⟨pages, (hpages pages).2 rfl, hlength.trans (by decide), horder⟩

end NotePager.Listing

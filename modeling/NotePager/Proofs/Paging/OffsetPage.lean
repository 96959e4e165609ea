import NotePager.Proofs.Paging.WalkBack

/-!
# Pages behind an offset

A page behind an offset is cut out of the listed notes by counting (`Listing.answer_behind`), a page
next to a cursor by a position. When the offset is a multiple of the page size, both are the same
piece: the page behind `i * limit` notes is page number `i` of the walk forward, with its offset in
place of cursors (`Listing.ask_behind`). So going through the offsets one page size after another
(`Listing.OffsetWalk`) shows what the walk forward shows, page by page, as far as offsets may go.
-/

namespace NotePager

namespace Parameters

/-- The parameters with an offset, behind which the page is to lie. -/
def behind (p : Parameters) (offset : Nat) : Parameters := { p with offset := some offset }

/-- `Parameters.validate` takes the parameters of a first page with an `offset` of at most
`maxOffset` to the same request with `start := .offset offset`. -/
theorem validate_behind {p : Parameters} {r : ListRequest} {offset : Nat} (h : p.validate = .ok r)
    (hstart : r.start = .cursor none .next) (hoffset : offset ≤ maxOffset) :
    (p.behind offset).validate = .ok { r with start := .offset offset } := by
  obtain ⟨hlimit, hsort, horder, -, -, hsearch, hcolor⟩ := validate_eq_ok_iff.1 h
  obtain ⟨hcursor, -, hanchor, hspan, hdirection⟩ := start_absent h hstart
  refine validate_eq_ok_iff.2 ⟨hlimit, hsort, horder, ?_, ?_, hsearch, hcolor⟩
  · simp [checkTogether, behind, hcursor, hanchor, hspan, hdirection]
  · have hn : 0 ≤ (offset : Int) ∧ (offset : Int) ≤ maxOffset := by omega
    simp only [validStart, behind, hn, and_self, if_true, Int.toNat_natCast]

end Parameters

/-- `Totals.selected` is the length of `Store.listed`. -/
theorem Store.selected_totals {s : Store} {sel : Selection} {sort : SortBy} {order : SortOrder}
    {listed : List Note} (hlisted : s.listed sel sort order = listed) :
    (s.totals sel).selected = listed.length := by
  rw [← hlisted, length_listed, totals]

namespace Listing

/-! ## One page -/

/-- The offset lies beyond the notes: none comes behind it. The offset 0 of no notes does not. -/
def BeyondTotal (offset total : Nat) : Prop := total ≤ offset ∧ ¬ (offset = 0 ∧ total = 0)

instance (offset total : Nat) : Decidable (BeyondTotal offset total) :=
  inferInstanceAs (Decidable (_ ∧ _))

section
variable {s : Store} {owner : Owner} {r : ListRequest} {listed : List Note}

/-- `answer` at `.offset offset` is `offsetBeyondTotal` when `BeyondTotal` holds, and otherwise
`pageBehind` of the listed notes. -/
theorem answer_behind (hlisted : s.listed (r.selection owner) r.sort r.order = listed)
    (offset : Nat) : answer s owner { r with start := .offset offset }
      = if BeyondTotal offset listed.length then
          .error (.failed (.offsetBeyondTotal offset listed.length))
        else .ok (pageBehind r.limit offset (s.totals (r.selection owner)) listed) := by
  have htotal := Store.selected_totals hlisted
  have hbeyond : (s.totals (r.selection owner)).selected ≤ offset
        ∧ (0 < (s.totals (r.selection owner)).selected ∨ 0 < offset)
      ↔ BeyondTotal offset listed.length := by
    rw [htotal]
    unfold BeyondTotal
    omega
  rw [answer_eq, outcome]
  by_cases h : BeyondTotal offset listed.length
  · rw [if_pos h, ← htotal]
    exact congrArg (Except.mapError Halt.failed) (if_pos (hbeyond.2 h))
  · rw [if_neg h, ← hlisted]
    exact congrArg (Except.mapError Halt.failed) (if_neg (mt hbeyond.1 h))

/-- `pageBehind` has `hasMore` when the listed notes go on behind `offset + limit`. -/
theorem pageBehind_hasMore {limit offset : Nat} {totals : Totals}
    (htotal : totals.selected = listed.length) :
    (pageBehind limit offset totals listed).hasMore = true ↔ offset + limit < listed.length := by
  simp only [pageBehind, htotal, decide_eq_true_eq, List.length_take, List.length_drop]
  omega

end

/-! ## One page after another -/

/-- The page with its offset in place of cursors. -/
def byOffset (offset : Nat) (page : Page) : Page :=
  { page with
    next := none, prev := none, offset := some offset, windowSize := some page.notes.length }

/-- The pages that are answered with an offset, then with the offset one page size further on, and
so on until a page has no more behind it. -/
inductive OffsetWalk (s : Store) (owner : Owner) (p : Parameters) (limit : Nat) :
    Nat → List Page → Prop
  | last (hpage : ask s owner (p.behind offset) = .ok page) (hmore : page.hasMore = false) :
    OffsetWalk s owner p limit offset [page]
  | step (hpage : ask s owner (p.behind offset) = .ok page) (hmore : page.hasMore = true)
    (hrest : OffsetWalk s owner p limit (offset + limit) pages) :
    OffsetWalk s owner p limit offset (page :: pages)

section
variable {s : Store} {owner : Owner} {p : Parameters} {r : ListRequest} {limit offset i : Nat}
  {pages pages' : List Page}

/-- `OffsetWalk` determines its pages. -/
theorem OffsetWalk.unique (h : OffsetWalk s owner p limit offset pages)
    (h' : OffsetWalk s owner p limit offset pages') : pages = pages' := by
  induction h generalizing pages' with
  | last hpage hmore =>
    cases h' with
    | last hpage' hmore' =>
      cases hpage.symm.trans hpage'
      rfl
    | step hpage' hmore' hrest' =>
      cases hpage.symm.trans hpage'
      cases hmore.symm.trans hmore'
  | step hpage hmore hrest ih =>
    cases h' with
    | last hpage' hmore' =>
      cases hpage.symm.trans hpage'
      cases hmore.symm.trans hmore'
    | step hpage' hmore' hrest' =>
      cases hpage.symm.trans hpage'
      rw [ih hrest']

/-- `ask` with the parameters of a first page and an `offset` is `answer` at `.offset offset`. -/
theorem ask_offset (hp : p.validate = .ok r) (hstart : r.start = .cursor none .next)
    (hoffset : offset ≤ maxOffset) :
    ask s owner (p.behind offset) = answer s owner { r with start := .offset offset } := by
  rw [ask, Parameters.validate_behind hp hstart hoffset]

/-- `ask` with the offset `i * limit` gives page `i` of the forward walk, made `byOffset`. -/
theorem ask_behind (hp : p.validate = .ok r) (hstart : r.start = .cursor none .next)
    (hi : i < pageCountOf s owner r) (hoffset : i * r.limit ≤ maxOffset) :
    ask s owner (p.behind (i * r.limit))
      = .ok (byOffset (i * r.limit) (pageOf s owner r i)) := by
  have hlimit : 0 < r.limit := (Parameters.limit_bounds hp).1
  generalize hlisted : s.listed (r.selection owner) r.sort r.order = listed
  have hinside : ¬ BeyondTotal (i * r.limit) listed.length := by
    cases i with
    | zero =>
      unfold BeyondTotal
      omega
    | succ j =>
      have hlt := (succ_lt_pageCountOf_iff hlimit).1 hi
      rw [hlisted] at hlt
      exact fun h => Nat.not_le.2 hlt h.1
  have htotal := Store.selected_totals hlisted
  have hmore : (pageBehind r.limit (i * r.limit) (s.totals (r.selection owner)) listed).hasMore
      = true ↔ i * r.limit + r.limit < listed.length := pageBehind_hasMore htotal
  rw [ask_offset hp hstart hoffset, answer_behind hlisted, if_neg hinside]
  refine congrArg Except.ok ?_
  simp only [byOffset, pageOf, pageAt, hlisted, Nat.succ_mul]
  simp only [pageBehind, decide_eq_true_eq] at hmore ⊢
  simp only [hmore]

/-- From the offset `i * limit`, `OffsetWalk` goes through the pages `i`, `i + 1`, … of the forward
walk. -/
theorem offsetWalk_from (hp : p.validate = .ok r) (hstart : r.start = .cursor none .next) {k : Nat}
    (hk : i + (k + 1) = pageCountOf s owner r) (hoffset : (i + k) * r.limit ≤ maxOffset) :
    OffsetWalk s owner p r.limit (i * r.limit)
      ((List.range' i (k + 1)).map fun j => byOffset (j * r.limit) (pageOf s owner r j)) := by
  have hlimit : 0 < r.limit := (Parameters.limit_bounds hp).1
  induction k generalizing i with
  | zero =>
    have hask : ask s owner (p.behind (i * r.limit)) = _ := ask_behind hp hstart (by omega) hoffset
    exact .last hask (pageOf_last hlimit hk.ge).1
  | succ k ih =>
    have hfront : i * r.limit ≤ maxOffset :=
      (Nat.mul_le_mul_right r.limit (Nat.le_add_right i (k + 1))).trans hoffset
    have hask : ask s owner (p.behind (i * r.limit)) = _ := ask_behind hp hstart (by omega) hfront
    have hrest := ih (i := i + 1) (by omega) (by rwa [Nat.add_right_comm])
    rw [Nat.succ_mul] at hrest
    rw [List.range'_succ, List.map_cons]
    exact .step hask (pageOf_full hlimit (by omega)).2 hrest

/-- `answer` at `.offset k` is refused exactly when `k` lies beyond the listed notes (`BeyondTotal`,
which the offset 0 of no notes does not), and otherwise holds the listed notes from `k` on, `limit`
of them at most, with their number and whether more follow. The offsets that are reckoned with fit
into 64 bits. At `i * limit` it is page `i` of the forward walk but for the cursors, so `OffsetWalk`
from 0 shows the pages of the forward walk, as long as the last offset is at most `maxOffset`. -/
theorem answer_offset_exact (hs : s.DistinctIds) (owner : Owner)
    (hlimit : minLimit ≤ r.limit ∧ r.limit ≤ maxLimit) :
    ∃ listed : List Note, listed.Perm (s.notes.filter (r.selection owner).accepts)
      ∧ InOrder r.sort r.order listed
      ∧ (∀ k ≤ maxOffset,
        (answer s owner { r with start := .offset k }
            = .error (.failed (.offsetBeyondTotal k listed.length))
          ↔ listed.length ≤ k ∧ ¬ (k = 0 ∧ listed.length = 0))
        ∧ (¬ (listed.length ≤ k ∧ ¬ (k = 0 ∧ listed.length = 0)) →
          ∃ page, answer s owner { r with start := .offset k } = .ok page
            ∧ page.notes = (listed.drop k).take r.limit
            ∧ page.windowSize = some page.notes.length ∧ page.offset = some k
            ∧ (page.hasMore = true ↔ k + r.limit < listed.length)
            ∧ page.next = none ∧ page.prev = none
            ∧ k + page.notes.length ≤ k + r.limit ∧ k + r.limit < UInt64.size))
      ∧ ∀ p : Parameters, p.validate = .ok r → r.start = .cursor none .next →
        (∀ k ≤ maxOffset,
          ask s owner (p.behind k) = answer s owner { r with start := .offset k })
        ∧ ∃ pages, ForwardWalk s owner p pages
          ∧ (∀ i page, pages[i]? = some page → i * r.limit ≤ maxOffset →
            ask s owner (p.behind (i * r.limit)) = .ok (byOffset (i * r.limit) page))
          ∧ ((pages.length - 1) * r.limit ≤ maxOffset → ∃ behind,
            (∀ pages', OffsetWalk s owner p r.limit 0 pages' ↔ pages' = behind)
            ∧ behind.map Page.notes = pages.map Page.notes
            ∧ behind.flatMap Page.notes = listed) := by
  generalize hlisted : s.listed (r.selection owner) r.sort r.order = listed
  refine ⟨listed, hlisted ▸ s.select_perm _ _, hlisted ▸ Store.listed_inOrder hs,
    fun k hk => ⟨?_, fun hinside => ?_⟩,
    fun p hp hstart => ⟨fun k hk => ask_offset hp hstart hk, ?_⟩⟩
  · rw [answer_behind hlisted]
    by_cases hbeyond : BeyondTotal k listed.length
    · exact iff_of_true (if_pos hbeyond) hbeyond
    · rw [if_neg hbeyond]
      exact iff_of_false nofun hbeyond
  · refine ⟨_, (answer_behind hlisted k).trans (if_neg hinside), rfl, rfl, rfl,
      pageBehind_hasMore (Store.selected_totals hlisted), rfl, rfl, ?_, ?_⟩
    · exact Nat.add_le_add_left (List.length_take_le _ _) k
    · have hmax : maxOffset + maxLimit < UInt64.size := by decide
      omega
  · have hwalk := forwardWalk_pages (s := s) hs owner hp hstart
    refine ⟨_, hwalk, fun i page hpage hi => ?_, fun hoffset => ?_⟩
    · obtain ⟨hlt, rfl⟩ := getElem?_forwardWalk hs hp hstart hwalk hpage
      exact ask_behind hp hstart hlt hi
    · obtain ⟨k, hk⟩ := exists_pageCountOf s owner r
      rw [List.length_map, List.length_range, hk, Nat.add_sub_cancel, ← Nat.zero_add k] at hoffset
      have hcount : 0 + (k + 1) = pageCountOf s owner r := by omega
      have hbehind := offsetWalk_from hp hstart hcount hoffset
      rw [Nat.zero_mul, ← List.range_eq_range', ← hk] at hbehind
      refine ⟨_, fun pages' => ⟨fun h => h.unique hbehind, fun h => h ▸ hbehind⟩, ?_, ?_⟩
      · rw [List.map_map, List.map_map]
        rfl
      · rw [← hlisted, ← flatMap_pages s owner hlimit.1, List.flatMap_map, List.flatMap_map]
        rfl

end

/-- `answer_offset_exact` for `teaStore` and its three notes with the tag tea: the pages behind 1
and behind 5, and the walk with pages of two. -/
theorem answer_offset_exact_teaStore :
    (∃ page, answer teaStore ⟨"ann"⟩ { teaRequest with start := .offset 1 } = .ok page
      ∧ page.notes = [teaNote 2 "ann", teaNote 1 "ann"] ∧ ¬ page.hasMore = true)
    ∧ answer teaStore ⟨"ann"⟩ { teaRequest with start := .offset 5 }
      = .error (.failed (.offsetBeyondTotal 5 3))
    ∧ ∃ behind, OffsetWalk teaStore ⟨"ann"⟩ (Parameters.ofRequest teaRequest) 2 0 behind
      ∧ behind.flatMap Page.notes = [teaNote 3 "ann", teaNote 2 "ann", teaNote 1 "ann"] := by
  have hs : teaStore.DistinctIds := by decide
  obtain ⟨listed, hperm, horder, hpage, hwalk⟩ :=
    answer_offset_exact (r := teaRequest) hs ⟨"ann"⟩ (by decide)
  have hlisted : listed = [teaNote 3 "ann", teaNote 2 "ann", teaNote 1 "ann"] :=
    horder.eq_of_perm (by decide) (hperm.trans (by decide))
  subst hlisted
  refine ⟨?_, (hpage 5 (by decide)).1.2 (by decide), ?_⟩
  · obtain ⟨page, hanswer, hnotes, -, -, hmore, -⟩ := (hpage 1 (by decide)).2 (by decide)
    exact ⟨page, hanswer, hnotes, mt hmore.1 (by decide)⟩
  · obtain ⟨-, pages, hforward, -, hbehind⟩ := hwalk _ validate_teaRequest rfl
    have hpages := hforward.unique (forwardWalk_pages hs ⟨"ann"⟩ validate_teaRequest rfl)
    have hfits : (pages.length - 1) * teaRequest.limit ≤ maxOffset := by
      rw [hpages]
      decide
    obtain ⟨behind, hunique, -, hnotes⟩ := hbehind hfits
    exact ⟨behind, (hunique behind).2 rfl, hnotes⟩

end Listing

end NotePager

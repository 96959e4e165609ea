import NotePager.Proofs.Paging.Walk

/-!
# Going on with a cursor from any page

However a page was asked for, the cursor at one of its notes leads on from there: `Listing.goOn`
asks for the page on one side of a cursor, with a page size of its own. A piece of the listed notes
goes on behind its last note (`Listing.goOn_last`) and in front of its first (`Listing.goOn_head`).
The page behind an offset is such a piece, and so is the window around an anchor
(`Listing.answer_anchor`), so changing the way of asking leaves out no note and shows none twice.
-/

namespace NotePager

namespace Parameters

/-- The parameters that go on with a cursor. What said where the page lies is left out. -/
def goOn (p : Parameters) (raw : String) (direction : PageDirection) (limit : Nat) : Parameters :=
  { p with
    limit := some limit, cursor := some raw, direction := some direction.name
    offset := none, anchor := none, span := none }

variable {p : Parameters} {r : ListRequest} {limit : Nat}

/-- `validLimit` is the given page size if it is within the bounds. -/
theorem validLimit_some (hp : p.limit = some (limit : Int))
    (hlimit : minLimit ≤ limit ∧ limit ≤ maxLimit) : p.validLimit = .ok limit := by
  have hbounds : (minLimit : Int) ≤ limit ∧ (limit : Int) ≤ maxLimit := by omega
  simp only [validLimit, hp, hbounds, and_self, if_true, Int.toNat_natCast]

/-- `Parameters.goOn` comes by `validate` to the request for the page next to the cursor, whichever
way the page was asked for before. -/
theorem validate_goOn (hp : p.validate = .ok r) (hlimit : minLimit ≤ limit ∧ limit ≤ maxLimit)
    (raw : String) (direction : PageDirection) :
    (p.goOn raw direction limit).validate = (validCursor raw r.sort).map fun c =>
      { r with limit, start := .cursor (some c) direction } := by
  obtain ⟨-, hsort, horder, -, -, hsearch, hcolor⟩ := validate_eq_ok_iff.1 hp
  have hlimit : (p.goOn raw direction limit).validLimit = .ok limit := validLimit_some rfl hlimit
  have hsort : (p.goOn raw direction limit).validSort = .ok r.sort := hsort
  have horder : (p.goOn raw direction limit).validOrder = .ok r.order := horder
  have htogether : (p.goOn raw direction limit).checkTogether = .ok () := rfl
  have hdirection : (p.goOn raw direction limit).validDirection = .ok direction :=
    validDirection_name rfl
  have hstart : (p.goOn raw direction limit).validStart r.sort = (do
      let direction ← (p.goOn raw direction limit).validDirection
      return .cursor (some (← validCursor raw r.sort)) direction) := rfl
  have hsearch : (p.goOn raw direction limit).validSearch = .ok r.search := hsearch
  have hcolor : (p.goOn raw direction limit).color = r.color := hcolor
  simp only [validate, hlimit, hsort, horder, htogether, hstart, hdirection, hsearch, hcolor, bind,
    Except.bind]
  cases validCursor raw r.sort <;> rfl

end Parameters

namespace Listing

/-- The answer to the owner for a cursor from a page of the listing that a request is about. -/
def goOn (s : Store) (owner : Owner) (r : ListRequest) (raw : String) (direction : PageDirection)
    (limit : Nat) : Except (Halt ListError) Page :=
  match Parameters.validCursor raw r.sort with
  | .error e => .error (.failed e)
  | .ok c => answer s owner { r with limit, start := .cursor (some c) direction }

variable {s : Store} {owner : Owner} {p : Parameters} {r : ListRequest} {raw : String}
  {direction : PageDirection} {limit offset span : Nat} {page : Page} {n : Note}
  {front piece back : List Note}

/-- `Listing.ask` with the parameters of `Parameters.goOn` is `Listing.goOn`. -/
theorem ask_goOn (hp : p.validate = .ok r) (hlimit : minLimit ≤ limit ∧ limit ≤ maxLimit) :
    ask s owner (p.goOn raw direction limit) = goOn s owner r raw direction limit := by
  rw [ask, Parameters.validate_goOn hp hlimit, goOn]
  cases Parameters.validCursor raw r.sort <;> rfl

/-- `Listing.goOn` with the cursor at a note is `Listing.answer` next to this cursor. -/
theorem goOn_atNote : goOn s owner r (Cursor.atNote n r.sort).encode direction limit
    = answer s owner { r with limit, start := .cursor (some (.atNote n r.sort)) direction } := by
  rw [goOn, Parameters.validCursor, Cursor.decode_encode_atNote]
  rfl

/-! ## Pieces of the listed notes -/

section
variable (hs : s.DistinctIds)
  (hlisted : s.listed (r.selection owner) r.sort r.order = front ++ piece ++ back)
include hs hlisted

/-- `Listing.goOn` with the cursor at the last note of a piece is `pageAfter` of the notes behind
the piece. -/
theorem goOn_last (hn : piece.getLast? = some n) :
    goOn s owner r (Cursor.atNote n r.sort).encode .next limit
      = .ok (pageAfter r.sort limit (s.totals (r.selection owner)) back) := by
  obtain ⟨piece, rfl⟩ := List.getLast?_eq_some_iff.1 hn
  have hcut : s.listed (r.selection owner) r.sort r.order = (front ++ piece) ++ n :: back := by
    simpa using hlisted
  have hplace := place_listed hs hcut
  have hrows := Store.rowsAfter_listed hs hcut
  rw [goOn_atNote, answer_eq, outcome]
  simp only [hplace, Except.map, Except.mapError]
  exact congrArg (fun rows => Except.ok (pageAfter _ _ _ rows)) hrows

/-- `Listing.goOn` back with the cursor at the first note of a piece is `pageBefore` of the notes in
front of the piece. -/
theorem goOn_head (hn : piece.head? = some n) :
    goOn s owner r (Cursor.atNote n r.sort).encode .prev limit
      = .ok (pageBefore r.sort limit (s.totals (r.selection owner)) front.reverse) := by
  obtain ⟨piece, rfl⟩ := List.head?_eq_some_iff.1 hn
  have hcut : s.listed (r.selection owner) r.sort r.order = front ++ n :: (piece ++ back) := by
    simpa using hlisted
  have hplace := place_listed hs hcut
  have hrows := Store.rowsAfter_reversed_listed hs hcut
  rw [goOn_atNote, answer_eq, outcome]
  simp only [hplace, Except.map, Except.mapError]
  exact congrArg (fun rows => Except.ok (pageBefore _ _ _ rows)) hrows

end

/-- The first notes of the reversed list, reversed again, are the last ones. -/
theorem reverse_take_reverse (limit : Nat) (notes : List Note) :
    (notes.reverse.take limit).reverse = notes.drop (notes.length - limit) := by
  rw [List.take_reverse, List.reverse_reverse]

/-! ## Pages behind an offset and windows around an anchor -/

/-- The notes of a page of `Listing.answer` by offset are the first of `Store.listed` from the
offset on, and the others follow them. -/
theorem answer_offset (hstart : r.start = .offset offset) (hpage : answer s owner r = .ok page) :
    (s.listed (r.selection owner) r.sort r.order).drop offset = page.notes
      ++ (s.listed (r.selection owner) r.sort r.order).drop (offset + page.notes.length) := by
  cases comesTo_of_answer hpage with
  | behind hbehind =>
    cases hstart.symm.trans hbehind
    generalize s.listed (r.selection owner) r.sort r.order = listed
    simp only [pageBehind]
    rw [← List.drop_drop]
    exact (List.prefix_iff_eq_append.1 (List.take_prefix r.limit (listed.drop offset))).symm
  | first hother | after hother | before hother | around hother =>
    cases hstart.symm.trans hother

/-- `pageAround` a note holds the notes next to it on both sides, and has `next` and `prev` on the
sides on which it leaves notes out. -/
theorem pageAround_eq (sort : SortBy) (span : Nat) (totals : Totals) (before : List Note) (n : Note)
    (after : List Note) {page : Page}
    (hpage : pageAround sort span totals before.reverse n after = page) :
    before ++ n :: after
        = before.take (before.length - span) ++ page.notes ++ after.drop span
      ∧ page.next = (if after.drop span = [] then none else cursorAt sort page.notes.getLast?)
      ∧ page.prev = (if before.take (before.length - span) = [] then none
        else cursorAt sort page.notes.head?)
      ∧ page.notes ≠ [] := by
  subst hpage
  have hafter : after.drop span = [] ↔ ¬ span < after.length := by
    rw [List.drop_eq_nil_iff, Nat.not_lt]
  have hbefore : before.take (before.length - span) = [] ↔ ¬ span < before.length := by
    rw [← List.length_eq_zero_iff, List.length_take]
    omega
  refine ⟨?_, ?_, ?_, by simp [pageAround]⟩
  · have hnext := List.take_append_drop (before.length - span) before
    simp only [pageAround, reverse_take_reverse, List.append_assoc, List.cons_append,
      List.take_append_drop]
    rw [← List.append_assoc, hnext]
  · simp only [pageAround, hafter, ite_not]
  · simp only [pageAround, hbefore, ite_not, List.length_reverse]

/-- `Listing.answer` around an anchor that `Store.listed` holds is `pageAround` it. -/
theorem answer_listed_anchor (hs : s.DistinctIds) {anchor : Cursor}
    (hstart : r.start = .anchor anchor span) {before after : List Note}
    (hcut : s.listed (r.selection owner) r.sort r.order = before ++ n :: after)
    (hid : n.id = anchor.id) : answer s owner r
      = .ok (pageAround r.sort span (s.totals (r.selection owner)) before.reverse n after) := by
  have hn : n ∈ s.listed (r.selection owner) r.sort r.order := by simp [hcut]
  obtain ⟨hmem, haccepts⟩ := Store.mem_listed.1 hn
  have hfind := hs.find?_eq_some hmem haccepts
  rw [hid] at hfind
  rw [answer_eq, outcome, hstart]
  simp only [hfind, Store.rowsAfter_listed hs hcut, Store.rowsAfter_reversed_listed hs hcut]
  rfl

/-- The notes of a page of `Listing.answer` around an anchor are a piece of `Store.listed`, with
`next` and `prev` on the sides on which there are more. -/
theorem answer_anchor (hs : s.DistinctIds) {anchor : Cursor}
    (hstart : r.start = .anchor anchor span) (hpage : answer s owner r = .ok page) :
    ∃ front back,
      s.listed (r.selection owner) r.sort r.order = front ++ page.notes ++ back
      ∧ page.next = (if back = [] then none else cursorAt r.sort page.notes.getLast?)
      ∧ page.prev = (if front = [] then none else cursorAt r.sort page.notes.head?)
      ∧ page.notes ≠ [] := by
  cases hfind : s.notes.find? fun n => (r.selection owner).accepts n && n.id == anchor.id with
  | none =>
    rw [answer_eq, outcome, hstart] at hpage
    simp only [hfind, Except.mapError, reduceCtorEq] at hpage
  | some n =>
    have hfound := List.find?_some hfind
    simp only [Bool.and_eq_true, beq_iff_eq] at hfound
    have hn : n ∈ s.listed (r.selection owner) r.sort r.order :=
      Store.mem_listed.2 ⟨List.mem_of_find?_eq_some hfind, hfound.1⟩
    obtain ⟨before, after, hcut⟩ := List.append_of_mem hn
    have hwindow := answer_listed_anchor hs hstart hcut hfound.2
    rw [hpage, Except.ok.injEq] at hwindow
    rw [hcut]
    exact ⟨_, _, pageAround_eq _ _ _ _ _ _ hwindow.symm⟩

/-! ## Changing the way of asking -/

/-- `Listing.goOn` from the last note of a page by offset comes to the listed notes behind that
page. -/
theorem goOn_offset (hs : s.DistinctIds) (hstart : r.start = .offset offset)
    (hpage : answer s owner r = .ok page) (hn : page.notes.getLast? = some n) (limit : Nat) :
    ∃ further, goOn s owner r (Cursor.atNote n r.sort).encode .next limit = .ok further
      ∧ further.notes = ((s.listed (r.selection owner) r.sort r.order).drop
        (offset + page.notes.length)).take limit
      ∧ page.notes ++ further.notes = ((s.listed (r.selection owner) r.sort r.order).drop
        offset).take (page.notes.length + limit) := by
  have hdrop := answer_offset hstart hpage
  generalize hlisted : s.listed (r.selection owner) r.sort r.order = listed at hdrop ⊢
  have hcut : listed = listed.take offset ++ page.notes
      ++ listed.drop (offset + page.notes.length) := by
    rw [List.append_assoc, ← hdrop, List.take_append_drop]
  refine ⟨_, goOn_last hs (hlisted.trans hcut) hn, rfl, ?_⟩
  rw [hdrop, List.take_length_add_append]
  rfl

/-- `Listing.goOn` with the `next` and the `prev` of a window around an anchor comes to the listed
notes behind it and in front of it. -/
theorem goOn_anchor (hs : s.DistinctIds) {anchor : Cursor} (hstart : r.start = .anchor anchor span)
    (hpage : answer s owner r = .ok page) :
    ∃ front back,
      s.listed (r.selection owner) r.sort r.order = front ++ page.notes ++ back
      ∧ (page.next = none ↔ back = []) ∧ (page.prev = none ↔ front = [])
      ∧ (∀ raw ∈ page.next, ∀ limit, ∃ further,
        goOn s owner r raw .next limit = .ok further ∧ further.notes = back.take limit)
      ∧ (∀ raw ∈ page.prev, ∀ limit, ∃ further,
        goOn s owner r raw .prev limit = .ok further
          ∧ further.notes = front.drop (front.length - limit)) := by
  obtain ⟨front, back, hcut, hnext, hprev, hnotes⟩ := answer_anchor hs hstart hpage
  have hlast := List.getLast?_eq_some_getLast hnotes
  have hhead := List.head?_eq_some_head hnotes
  rw [hlast] at hnext
  rw [hhead] at hprev
  refine ⟨front, back, hcut, ?_, ?_, fun raw hraw limit => ?_, fun raw hraw limit => ?_⟩
  · rw [hnext]
    by_cases hback : back = [] <;> simp [hback, cursorAt]
  · rw [hprev]
    by_cases hfront : front = [] <;> simp [hfront, cursorAt]
  · rw [hnext] at hraw
    by_cases hback : back = []
    · simp only [hback, if_true, Option.mem_def, reduceCtorEq] at hraw
    · simp only [hback, if_false, Option.mem_def] at hraw
      cases hraw
      exact ⟨_, goOn_last hs hcut hlast, rfl⟩
  · rw [hprev] at hraw
    by_cases hfront : front = []
    · simp only [hfront, if_true, Option.mem_def, reduceCtorEq] at hraw
    · simp only [hfront, if_false, Option.mem_def] at hraw
      cases hraw
      exact ⟨_, goOn_head hs hcut hhead, reverse_take_reverse limit front⟩

/-- `Listing.goOn` leaves out no listed note and shows none twice, whichever way the page before was
asked for. From the last note of a page by offset it comes to the listed notes behind that page. The
notes of a window around an anchor are a piece of the listed notes; `goOn` with its `next` and its
`prev` comes to the notes behind it and in front of it, and where it has no cursor there are none.
`Parameters.goOn` makes parameters that ask for these pages, from parameters for a page of any
kind. -/
theorem goOn_seamless (hs : s.DistinctIds) (owner : Owner) (r : ListRequest) :
    ∃ listed : List Note, listed.Perm (s.notes.filter (r.selection owner).accepts)
      ∧ InOrder r.sort r.order listed
      ∧ (∀ offset page, r.start = .offset offset → answer s owner r = .ok page →
        ∀ n ∈ page.notes.getLast?, ∀ limit, ∃ further,
          goOn s owner r (Cursor.atNote n r.sort).encode .next limit = .ok further
          ∧ further.notes = (listed.drop (offset + page.notes.length)).take limit
          ∧ page.notes ++ further.notes
            = (listed.drop offset).take (page.notes.length + limit))
      ∧ (∀ anchor span page, r.start = .anchor anchor span → answer s owner r = .ok page →
        ∃ front back, listed = front ++ page.notes ++ back
          ∧ (page.next = none ↔ back = []) ∧ (page.prev = none ↔ front = [])
          ∧ (∀ raw ∈ page.next, ∀ limit, ∃ further,
            goOn s owner r raw .next limit = .ok further ∧ further.notes = back.take limit)
          ∧ (∀ raw ∈ page.prev, ∀ limit, ∃ further,
            goOn s owner r raw .prev limit = .ok further
              ∧ further.notes = front.drop (front.length - limit)))
      ∧ ∀ p : Parameters, p.validate = .ok r → ∀ raw direction limit,
        minLimit ≤ limit ∧ limit ≤ maxLimit →
        ask s owner (p.goOn raw direction limit) = goOn s owner r raw direction limit := by
  refine ⟨s.listed (r.selection owner) r.sort r.order, s.select_perm _ _, Store.listed_inOrder hs,
    ?_, ?_, ?_⟩
  · intro offset page hstart hpage n hn limit
    exact goOn_offset hs hstart hpage hn limit
  · intro anchor span page hstart hpage
    exact goOn_anchor hs hstart hpage
  · intro p hp raw direction limit hlimit
    exact ask_goOn hp hlimit

/-- `goOn_seamless` for the three notes of `teaStore`: behind the page by offset that holds the
second comes the third, and so it does behind the window of one note around the first. -/
theorem goOn_seamless_teaStore :
    (∃ page further, answer teaStore ⟨"ann"⟩ { teaRequest with limit := 1, start := .offset 1 }
        = .ok page
      ∧ goOn teaStore ⟨"ann"⟩ teaRequest (Cursor.atNote (teaNote 2 "ann") .title).encode .next 5
        = .ok further
      ∧ page.notes ++ further.notes = [teaNote 2 "ann", teaNote 1 "ann"])
    ∧ ∃ window further raw,
      answer teaStore ⟨"ann"⟩ { teaRequest with start := .anchor (.titled "Tea" ⟨3⟩) 1 }
        = .ok window
      ∧ window.next = some raw ∧ goOn teaStore ⟨"ann"⟩ teaRequest raw .next 5 = .ok further
      ∧ window.notes ++ further.notes = [teaNote 3 "ann", teaNote 2 "ann", teaNote 1 "ann"] := by
  have hdistinct : teaStore.DistinctIds := by decide
  have htotals : teaStore.totals (teaRequest.selection ⟨"ann"⟩) = ⟨3, 3⟩ := by decide
  have hunique {listed : List Note} (horder : InOrder .title .descending listed)
      (hperm : listed.Perm (teaStore.notes.filter (teaRequest.selection ⟨"ann"⟩).accepts)) :
      listed = [teaNote 3 "ann", teaNote 2 "ann", teaNote 1 "ann"] :=
    horder.eq_of_perm (by decide) (hperm.trans (by decide))
  constructor
  · have hpage : answer teaStore ⟨"ann"⟩ { teaRequest with limit := 1, start := .offset 1 }
        = .ok (pageBehind 1 1 (teaStore.totals (teaRequest.selection ⟨"ann"⟩))
          (teaStore.listed (teaRequest.selection ⟨"ann"⟩) .title .descending)) := by
      rw [answer_eq, outcome]
      exact congrArg (Except.mapError Halt.failed) (if_neg (htotals ▸ by decide))
    rw [listed_teaStore] at hpage
    obtain ⟨listed, hperm, horder, hoffset, -, -⟩ := goOn_seamless hdistinct ⟨"ann"⟩ _
    obtain ⟨further, hfurther, -, hnotes⟩ := hoffset 1 _ rfl hpage (teaNote 2 "ann") rfl 5
    rw [hunique horder hperm] at hnotes
    exact ⟨_, further, hpage, hfurther, hnotes⟩
  · have hcut : teaStore.listed (teaRequest.selection ⟨"ann"⟩) .title .descending
        = [] ++ teaNote 3 "ann" :: [teaNote 2 "ann", teaNote 1 "ann"] := listed_teaStore
    have hpage : answer teaStore ⟨"ann"⟩ { teaRequest with start := .anchor (.titled "Tea" ⟨3⟩) 1 }
        = .ok (pageAround .title 1 (teaStore.totals (teaRequest.selection ⟨"ann"⟩)) []
          (teaNote 3 "ann") [teaNote 2 "ann", teaNote 1 "ann"]) :=
      answer_listed_anchor (r := { teaRequest with start := .anchor (.titled "Tea" ⟨3⟩) 1 })
        hdistinct rfl hcut rfl
    obtain ⟨listed, hperm, horder, -, hanchor, -⟩ := goOn_seamless hdistinct ⟨"ann"⟩ _
    obtain ⟨front, back, hpiece, -, hprev, hnext, -⟩ := hanchor _ _ _ rfl hpage
    obtain ⟨further, hfurther, hnotes⟩ := hnext _ rfl 5
    have hfront : front = [] := hprev.1 rfl
    have hback : back = [teaNote 1 "ann"] := by
      rw [hunique horder hperm, hfront] at hpiece
      have hwhole : [teaNote 3 "ann", teaNote 2 "ann"] ++ [teaNote 1 "ann"]
          = [teaNote 3 "ann", teaNote 2 "ann"] ++ back := hpiece
      exact (List.append_cancel_left hwhole).symm
    refine ⟨_, further, _, hpage, rfl, hfurther, ?_⟩
    rw [hnotes, hback]
    rfl

end Listing

end NotePager

import NotePager.Proofs.Paging.ModeChange

/-!
# Windows around an anchor

The two halves of a window are read outwards from the anchor and put together with it between them.
What comes out depends on the place of the anchor among the listed notes alone: `Listing.windowAt`
is the window for that place, and by `Listing.pageAround_cut` the halves make it. So the window is a
piece of the listed notes that is cut off at both ends of the list, and it has a cursor at each end
where notes are left out.
-/

namespace NotePager.Listing

/-- The window around place `i` of the listed notes, counted from 0, with up to `span` notes on each
side. -/
def windowAt (sort : SortBy) (span : Nat) (totals : Totals) (listed : List Note) (i : Nat) :
    Page where
  notes := (listed.take (i + span + 1)).drop (i - span)
  totals
  hasMore := decide (span < i) || decide (i + span + 1 < listed.length)
  prev := if span < i then cursorAt sort listed[i - span]? else none
  next := if i + span + 1 < listed.length then cursorAt sort listed[i + span]? else none
  anchorIndex := some i

section
variable {sort : SortBy} {span i : Nat} {totals : Totals} {listed : List Note}

/-- The notes of `windowAt` the place of a note are the last `span` notes before it, the note, and
the first `span` notes after it. -/
theorem windowAt_notes {before after : List Note} {n : Note} :
    (windowAt sort span totals (before ++ n :: after) before.length).notes
      = (before.reverse.take span).reverse ++ n :: after.take span := by
  have hfront : (before ++ n :: after).take (before.length + span + 1)
      = before ++ n :: after.take span := by
    rw [Nat.add_assoc, List.take_length_add_append, List.take_succ_cons]
  have hdrop : before.length - span - before.length = 0 := by omega
  rw [windowAt, hfront, List.drop_append, hdrop, List.drop_zero, reverse_take_reverse]

/-- The first note of `windowAt` place `i` stands at place `i - span` of the listed notes. -/
theorem head?_windowAt : (windowAt sort span totals listed i).notes.head? = listed[i - span]? := by
  rw [windowAt, List.head?_drop, List.getElem?_take, if_pos (by omega)]

/-- The last note of `windowAt` place `i` stands at place `i + span`, if the list goes on so far. -/
theorem getLast?_windowAt (hi : i + span < listed.length) :
    (windowAt sort span totals listed i).notes.getLast? = listed[i + span]? := by
  have hlength : (listed.take (i + span + 1)).length = i + span + 1 := by
    rw [List.length_take]
    omega
  rw [windowAt, List.getLast?_drop, hlength, if_neg (by omega), List.getLast?_take,
    if_neg (Nat.succ_ne_zero _), Nat.add_sub_cancel, List.getElem?_eq_getElem hi]
  rfl

/-- The `prev` of `windowAt` is the cursor at its first note if there are notes in front that it
leaves out. -/
theorem windowAt_prev : (windowAt sort span totals listed i).prev
    = if span < i then cursorAt sort (windowAt sort span totals listed i).notes.head?
      else none := by
  rw [head?_windowAt, windowAt]

/-- The `next` of `windowAt` is the cursor at its last note if there are notes behind that it leaves
out. -/
theorem windowAt_next : (windowAt sort span totals listed i).next
    = if i + span + 1 < listed.length then
      cursorAt sort (windowAt sort span totals listed i).notes.getLast? else none := by
  by_cases h : i + span + 1 < listed.length
  · rw [getLast?_windowAt (by omega), windowAt]
  · simp only [windowAt, h, if_false]

/-- A link that is `cursorAt` some note under a condition is there exactly under the condition, and
is then the string of `Cursor.atNote` of this note. -/
theorem cursorAt_if {c : Prop} [Decidable c] {found : Option Note} {link : Option String}
    (hlink : link = if c then cursorAt sort found else none) (hfound : found ≠ none) :
    (link.isSome ↔ c) ∧ ∀ raw ∈ link, ∃ n ∈ found, raw = (Cursor.atNote n sort).encode := by
  obtain ⟨n, rfl⟩ := Option.ne_none_iff_exists'.1 hfound
  subst hlink
  by_cases h : c <;> simp [h, cursorAt, eq_comm]

/-- `pageAround` a note, with the rows before it read backwards, is `windowAt` the place of the
note. -/
theorem pageAround_cut {before after : List Note} {n : Note} :
    pageAround sort span totals before.reverse n after
      = windowAt sort span totals (before ++ n :: after) before.length := by
  have hafter : before.length + span + 1 < (before ++ n :: after).length ↔ span < after.length := by
    simp only [List.length_append, List.length_cons]
    omega
  have hnotes : (windowAt sort span totals (before ++ n :: after) before.length).notes = _ :=
    windowAt_notes
  have hprev : (windowAt sort span totals (before ++ n :: after) before.length).prev = _ :=
    windowAt_prev
  have hnext : (windowAt sort span totals (before ++ n :: after) before.length).next = _ :=
    windowAt_next
  simp only [hafter] at hnext
  simp only [pageAround, List.length_reverse, ← hnotes, ← hprev, ← hnext]
  simp only [windowAt, hafter]

/-- `windowAt` the place of a note holds at least this note. -/
theorem windowAt_ne_nil (hi : i < listed.length) :
    (windowAt sort span totals listed i).notes ≠ [] := by
  refine List.ne_nil_of_length_pos ?_
  rw [windowAt, List.length_drop, List.length_take]
  omega

/-- `windowAt` has more exactly when its notes are not all that is listed. -/
theorem windowAt_hasMore (hi : i < listed.length) :
    (windowAt sort span totals listed i).hasMore = true
      ↔ (windowAt sort span totals listed i).notes ≠ listed := by
  have hlength : (windowAt sort span totals listed i).notes.length
      = min (i + span + 1) listed.length - (i - span) := by
    rw [windowAt, List.length_drop, List.length_take]
  constructor
  · intro hmore heq
    rw [heq] at hlength
    simp only [windowAt, Bool.or_eq_true, decide_eq_true_eq] at hmore
    omega
  · contrapose!
    intro hmore
    simp only [windowAt, ne_eq, Bool.or_eq_true, decide_eq_true_eq, not_or, Nat.not_lt] at hmore ⊢
    rw [Nat.sub_eq_zero_of_le hmore.1, List.drop_zero, List.take_of_length_le hmore.2]

end

/-! ## Asking for a window -/

section
variable {s : Store} {owner : Owner} {r : ListRequest} {anchor : Cursor} {span i : Nat} {n : Note}

/-- `Listing.answer` to a request around an anchor is `windowAt` the place of the anchor in
`Store.listed`. -/
theorem answer_windowAt (hs : s.DistinctIds) (hstart : r.start = .anchor anchor span)
    (hn : (s.listed (r.selection owner) r.sort r.order)[i]? = some n) (hid : n.id = anchor.id) :
    answer s owner r = .ok (windowAt r.sort span (s.totals (r.selection owner))
      (s.listed (r.selection owner) r.sort r.order) i) := by
  obtain ⟨hi, rfl⟩ := List.getElem?_eq_some_iff.1 hn
  have hcut := eq_take_append_drop hi
  have hfront : ((s.listed (r.selection owner) r.sort r.order).take i).length = i := by
    rw [List.length_take]
    omega
  rw [answer_listed_anchor hs hstart hcut hid, pageAround_cut, ← hcut, hfront]

/-- `Listing.answer` to a request around an anchor that `Store.listed` does not hold is
`notFound`. -/
theorem answer_unlisted_anchor (hstart : r.start = .anchor anchor span)
    (hnone : ∀ n ∈ s.listed (r.selection owner) r.sort r.order, n.id ≠ anchor.id) :
    answer s owner r = .error (.failed (.notFound (.anchorNote anchor.id))) := by
  have hfind : (s.notes.find? fun n => (r.selection owner).accepts n && n.id == anchor.id)
      = none := by
    rw [List.find?_eq_none]
    intro n hn
    rw [Bool.and_eq_true, beq_iff_eq]
    exact fun ⟨haccepts, hid⟩ => hnone n (Store.mem_listed.2 ⟨hn, haccepts⟩) hid
  rw [answer_eq, outcome, hstart]
  simp only [hfind, Except.mapError]

/-- `Listing.answer` looks at no more of an anchor than its identifier. -/
theorem answer_anchor_congr (hstart : r.start = .anchor anchor span) {other : Cursor}
    (hid : other.id = anchor.id) :
    answer s owner { r with start := .anchor other span } = answer s owner r := by
  have hselection : ListRequest.selection { r with start := .anchor other span } owner
      = r.selection owner := rfl
  rw [answer_eq, answer_eq, outcome, outcome, hstart]
  simp only [hid, hselection]

/-- `Listing.answer` to a request around an anchor, by the listed notes alone. It is `notFound`
exactly when none of them has the identifier of the anchor. Otherwise the page holds the anchor and
up to `span` listed notes on each side, as far as the list goes; `anchorIndex` is the place of the
anchor, and `hasMore` holds if the page leaves any note out; `prev` and `next` are there exactly
where it does at that end, and mark the outermost note there. The title that an anchor may carry has
no influence. -/
theorem answer_anchor_exact (hs : s.DistinctIds) (owner : Owner)
    (hstart : r.start = .anchor anchor span) :
    ∃ listed : List Note, listed.Perm (s.notes.filter (r.selection owner).accepts)
      ∧ InOrder r.sort r.order listed
      ∧ ((∃ what, answer s owner r = .error (.failed (.notFound what)))
        ↔ ∀ n ∈ listed, n.id ≠ anchor.id)
      ∧ (∀ i n, listed[i]? = some n → n.id = anchor.id →
        ∃ page, answer s owner r = .ok page
          ∧ page.notes = (listed.take (i + span + 1)).drop (i - span)
          ∧ page.anchorIndex = some i
          ∧ (page.hasMore = true ↔ page.notes ≠ listed)
          ∧ (page.prev.isSome ↔ span < i)
          ∧ (∀ raw ∈ page.prev, ∃ first ∈ page.notes.head?,
            raw = (Cursor.atNote first r.sort).encode)
          ∧ (page.next.isSome ↔ i + span + 1 < listed.length)
          ∧ (∀ raw ∈ page.next, ∃ last ∈ page.notes.getLast?,
            raw = (Cursor.atNote last r.sort).encode))
      ∧ ∀ other : Cursor, other.id = anchor.id →
        answer s owner { r with start := .anchor other span } = answer s owner r := by
  refine ⟨s.listed (r.selection owner) r.sort r.order, s.select_perm _ _, Store.listed_inOrder hs,
    ⟨?_, fun hnone => ⟨_, answer_unlisted_anchor hstart hnone⟩⟩, fun i n hn hid => ?_,
    fun other => answer_anchor_congr hstart⟩
  · rintro ⟨what, hwhat⟩ n hn hid
    obtain ⟨i, hi⟩ := List.mem_iff_getElem?.1 hn
    cases hwhat.symm.trans (answer_windowAt hs hstart hi hid)
  · obtain ⟨hi, -⟩ := List.getElem?_eq_some_iff.1 hn
    have hnotes : (windowAt r.sort span (s.totals (r.selection owner)) _ i).notes ≠ [] :=
      windowAt_ne_nil hi
    obtain ⟨hprev, hfirst⟩ := cursorAt_if windowAt_prev (mt List.head?_eq_none_iff.1 hnotes)
    obtain ⟨hnext, hlast⟩ := cursorAt_if windowAt_next (mt List.getLast?_eq_none_iff.1 hnotes)
    exact ⟨_, answer_windowAt hs hstart hn hid, rfl, rfl, windowAt_hasMore hi, hprev, hfirst, hnext,
      hlast⟩

end

/-- A request for one note on each side of the anchor. The cursor carries a title that the note does
not have. -/
def anchorRequest (id : NoteId) : ListRequest :=
  { teaRequest with start := .anchor (.titled "Coffee" id) 1 }

/-- `answer_anchor_exact` for `teaStore`: the window around the first note of the owner `ann` leaves
out the last one, and for `ann` there is none around the note of `ben`. -/
theorem answer_anchor_exact_teaStore :
    (∃ page, answer teaStore ⟨"ann"⟩ (anchorRequest ⟨3⟩) = .ok page
      ∧ page.notes = [teaNote 3 "ann", teaNote 2 "ann"] ∧ page.anchorIndex = some 0
      ∧ page.hasMore = true ∧ page.prev = none ∧ page.next.isSome)
    ∧ ∃ what, answer teaStore ⟨"ann"⟩ (anchorRequest ⟨9⟩) = .error (.failed (.notFound what)) := by
  have hs : teaStore.DistinctIds := by decide
  have hnotes {listed : List Note}
      (hperm : listed.Perm (teaStore.notes.filter (teaRequest.selection ⟨"ann"⟩).accepts))
      (horder : InOrder .title .descending listed) :
      listed = [teaNote 3 "ann", teaNote 2 "ann", teaNote 1 "ann"] :=
    horder.eq_of_perm (by decide) (hperm.trans (by decide))
  constructor
  · obtain ⟨listed, hperm, horder, -, hwindow, -⟩ :=
      answer_anchor_exact (r := anchorRequest ⟨3⟩) hs ⟨"ann"⟩ rfl
    cases hnotes hperm horder
    obtain ⟨page, hpage, hcut, hindex, hmore, hprev, -, hnext, -⟩ := hwindow 0 _ rfl rfl
    refine ⟨page, hpage, hcut, hindex, hmore.2 (by rw [hcut]; decide), ?_, hnext.2 (by decide)⟩
    exact Option.not_isSome_iff_eq_none.1 (mt hprev.1 (by decide))
  · obtain ⟨listed, hperm, horder, hmissing, -⟩ :=
      answer_anchor_exact (r := anchorRequest ⟨9⟩) hs ⟨"ann"⟩ rfl
    cases hnotes hperm horder
    exact hmissing.2 (by decide)

end NotePager.Listing

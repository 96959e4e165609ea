import NotePager.Proofs.Paging.Listed

/-!
# Ledgers of notes

A ledger lists the notes of a store twice, the latest first: by when they were written last, and by
when they were created. It is kept from deeds alone: a note that is added comes first in both lists,
one that is patched comes first among the written ones, and one that is removed is struck off. As
long as every write is later than those before it, these are the orders of the times that the notes
carry (`Ledger.Sound.step`), and so the orders of the listings by these times
(`Ranked.listed_eq`).
-/

namespace NotePager

open Position

/-! ## Deeds -/

/-- A note in a ledger, with its owner. -/
abbrev Entry := NoteId × Owner

/-- The entry for a note. -/
def Note.entry (n : Note) : Entry := (n.id, n.owner)

/-- What has been done to one note. -/
inductive Deed where
  | added (e : Entry)
  | patched (e : Entry)
  | removed (e : Entry)
  deriving DecidableEq, Repr

/-- The deed gives its note a time. -/
def Deed.isWrite : Deed → Bool
  | added _ | patched _ => true
  | removed _ => false

/-- What a deed at this time does to the notes of the store `s`. -/
inductive Deed.Done (now : Instant) (s s' : Store) : Deed → Prop
  | added {note : Note} (hcreated : note.createdAt = now) (hupdated : note.updatedAt = now)
      (hnew : ∀ n ∈ s.notes, n.id ≠ note.id) (hnotes : s'.notes = s.notes ++ [note]) :
      Done now s s' (.added note.entry)
  | patched {front back : List Note} {n note : Note} (hentry : note.entry = n.entry)
      (hcreated : note.createdAt = n.createdAt) (hupdated : note.updatedAt = now)
      (hcut : s.notes = front ++ n :: back) (hnotes : s'.notes = front ++ note :: back) :
      Done now s s' (.patched n.entry)
  | removed {front back : List Note} {n : Note} (hcut : s.notes = front ++ n :: back)
      (hnotes : s'.notes = front ++ back) : Done now s s' (.removed n.entry)

/-- The notes in the order of their times, the latest first. -/
structure Ledger where
  /-- By the last write. -/
  written : List Entry := []
  /-- By the creation. -/
  created : List Entry := []

/-- The ledger with one more deed. -/
def Ledger.record (l : Ledger) : Deed → Ledger
  | .added e => ⟨e :: l.written, e :: l.created⟩
  | .patched e => { l with written := e :: l.written.filter (· != e) }
  | .removed e => ⟨l.written.filter (· != e), l.created.filter (· != e)⟩

/-- An owner's notes of a ledger. -/
def ownedIds (owner : Owner) (entries : List Entry) : List NoteId :=
  (entries.filter (·.2 == owner)).map Prod.fst

/-- A list that has the latest first, in the order of a listing by time. -/
def SortOrder.fromLatest : SortOrder → List α → List α
  | descending, latest => latest
  | ascending, latest => latest.reverse

/-- A `Selection` by owner alone accepts the owner's notes. -/
theorem Selection.accepts_owner (owner : Owner) :
    ({ owner } : Selection).accepts = fun n => n.owner == owner := by
  funext n
  simp [accepts]

/-! ## Rankings -/

/-- These are the notes of a store in the order of a time of theirs, the latest first. The times are
among those that have passed. -/
structure Ranking (time : Note → Instant) (past : List Instant) (s : Store) (notes : List Note) :
    Prop where
  perm : notes.Perm s.notes
  latest : (notes.map time).Pairwise fun t u => compare u t = .lt
  known : notes.map time ⊆ past

/-- The entries are those of the notes of a store in such an order. -/
def Ranked (time : Note → Instant) (past : List Instant) (s : Store) (entries : List Entry) :
    Prop :=
  ∃ notes, Ranking time past s notes ∧ notes.map Note.entry = entries

namespace Ranked

variable {time : Note → Instant} {past : List Instant} {s s' : Store} {entries : List Entry}
  {front back : List Note} {n note : Note} {now : Instant}

/-- The empty store is `Ranked` by no entries. -/
theorem empty (time : Note → Instant) : Ranked time [] {} [] :=
  ⟨[], ⟨.refl _, .nil, List.nil_subset _⟩, rfl⟩

/-- `Ranked` is kept when one more time has passed. -/
theorem later (h : Ranked time past s entries) (now : Instant) :
    Ranked time (past ++ [now]) s entries := by
  obtain ⟨notes, hnotes, hentries⟩ := h
  exact ⟨notes, ⟨hnotes.perm, hnotes.latest, fun _ ht => List.mem_append_left _ (hnotes.known ht)⟩,
    hentries⟩

/-- Adding a note with a time later than all before it puts its entry first. -/
theorem cons (h : Ranked time past s entries) (hnow : time note = now)
    (hlater : ∀ t ∈ past, compare t now = .lt) (hs' : s'.notes.Perm (note :: s.notes)) :
    Ranked time (past ++ [now]) s' (note.entry :: entries) := by
  obtain ⟨notes, hnotes, rfl⟩ := h
  refine ⟨note :: notes, ⟨(hnotes.perm.cons note).trans hs'.symm, ?_, ?_⟩, rfl⟩
  · exact List.pairwise_cons.2 ⟨fun t ht => hnow ▸ hlater t (hnotes.known ht), hnotes.latest⟩
  · rw [List.map_cons, hnow]
    exact List.cons_subset.2 ⟨by simp, fun t ht => List.mem_append_left _ (hnotes.known ht)⟩

section
variable (h : Ranked time past s entries) (hs : s.DistinctIds)
  (hcut : s.notes = front ++ n :: back)
include h hs hcut

/-- Removing a note filters out its entry. -/
theorem strike (hs' : s'.notes = front ++ back) :
    Ranked time past s' (entries.filter (· != n.entry)) := by
  obtain ⟨notes, hnotes, rfl⟩ := h
  have hne : ∀ m ∈ front ++ back, (m.entry != n.entry) = true := fun m hm =>
    bne_iff_ne.2 fun heq => hs.ne_of_cut hcut m hm (congrArg Prod.fst heq)
  have hkept : s.notes.filter (·.entry != n.entry) = front ++ back := by
    rw [← List.filter_eq_self.2 hne, hcut]
    simp
  have hsome : (notes.filter (·.entry != n.entry)).Sublist notes := List.filter_sublist
  refine ⟨notes.filter (·.entry != n.entry), ⟨?_, hnotes.latest.sublist (hsome.map _), ?_⟩, ?_⟩
  · rw [hs', ← hkept]
    exact hnotes.perm.filter _
  · exact fun t ht => hnotes.known ((hsome.map _).subset ht)
  · rw [List.filter_map]
    rfl

/-- Giving a note a time later than all before it moves its entry to the front. -/
theorem raise (hs' : s'.notes = front ++ note :: back) (hnow : time note = now)
    (hlater : ∀ t ∈ past, compare t now = .lt) :
    Ranked time (past ++ [now]) s' (note.entry :: entries.filter (· != n.entry)) := by
  have hstruck : Ranked time past ⟨front ++ back⟩ _ := h.strike hs hcut rfl
  exact hstruck.cons hnow hlater (hs' ▸ List.perm_middle)

omit hs in
/-- Replacing a note by one with the same time and entry leaves the entries unchanged. -/
theorem replace (hs' : s'.notes = front ++ note :: back) (hkept : time note = time n)
    (hentry : note.entry = n.entry) : Ranked time past s' entries := by
  obtain ⟨notes, hnotes, rfl⟩ := h
  have hn : n ∈ notes := hnotes.perm.mem_iff.2 (by simp [hcut])
  obtain ⟨xs, ys, rfl⟩ := List.append_of_mem hn
  have htimes : (xs ++ note :: ys).map time = (xs ++ n :: ys).map time := by simp [hkept]
  have hperm : (xs ++ ys).Perm (front ++ back) :=
    (List.perm_middle.symm.trans ((hcut ▸ hnotes.perm).trans List.perm_middle)).cons_inv
  refine ⟨xs ++ note :: ys, ⟨?_, htimes ▸ hnotes.latest, htimes ▸ hnotes.known⟩, by simp [hentry]⟩
  rw [hs']
  exact List.perm_middle.trans ((hperm.cons note).trans List.perm_middle.symm)

end

/-- `Store.listed` by the ranked time has the identifiers of `ownedIds`, in the order of
`SortOrder.fromLatest`. -/
theorem listed_eq (h : Ranked time past s entries) (hs : s.DistinctIds) {sort : SortBy}
    (hsort : ∀ n : Note, n.value sort.field = .time (time n)) (owner : Owner) (order : SortOrder) :
    (s.listed { owner } sort order).map Note.id = order.fromLatest (ownedIds owner entries) := by
  obtain ⟨notes, hnotes, rfl⟩ := h
  have horder : InOrder sort .descending notes := by
    refine List.pairwise_map.2 ((List.pairwise_map.1 hnotes.latest).imp fun hab => .inl ?_)
    simpa only [ofNote, hsort, FieldValue.compare?, Option.some.injEq] using hab
  have hlisted : s.listed { owner } sort .descending = notes.filter (·.owner == owner) := by
    refine (Store.listed_inOrder hs).eq_of_perm (horder.sublist List.filter_sublist) ?_
    rw [← Selection.accepts_owner]
    exact (s.select_perm _ _).trans (hnotes.perm.filter _).symm
  have hids : (notes.filter (·.owner == owner)).map Note.id
      = ownedIds owner (notes.map Note.entry) := by
    rw [ownedIds, List.filter_map, List.map_map]
    rfl
  cases order with
  | descending => rw [hlisted, hids, SortOrder.fromLatest]
  | ascending =>
    have hreversed : s.listed { owner } sort (SortOrder.reversed .descending)
        = (s.listed { owner } sort .descending).reverse := Store.listed_reversed hs
    rw [SortOrder.reversed] at hreversed
    rw [hreversed, List.map_reverse, hlisted, hids, SortOrder.fromLatest]

end Ranked

/-! ## Keeping a ledger -/

/-- The times that a deed sets. -/
def Deed.times (now : Instant) (d : Deed) : List Instant := if d.isWrite then [now] else []

/-- `Deed.Done` keeps `Store.DistinctIds`. -/
theorem Deed.Done.distinctIds {now : Instant} {s s' : Store} {d : Deed} (h : d.Done now s s')
    (hs : s.DistinctIds) : s'.DistinctIds := by
  cases h with
  | added _ _ hnew hnotes => exact hs.concat hnotes hnew
  | @patched _ _ n note hentry _ _ hcut hnotes =>
    have hid : note.id = n.id := congrArg Prod.fst hentry
    rw [Store.DistinctIds, hcut] at hs
    rw [Store.DistinctIds, hnotes]
    simpa [hid] using hs
  | removed hcut hnotes =>
    rw [Store.DistinctIds, hcut] at hs
    rw [Store.DistinctIds, hnotes]
    exact hs.sublist (((List.sublist_cons_self _ _).append_left _).map _)

namespace Ledger

/-- The ledger lists the notes of a store by their times. -/
structure Sound (l : Ledger) (past : List Instant) (s : Store) : Prop where
  distinct : s.DistinctIds
  written : Ranked Note.updatedAt past s l.written
  created : Ranked Note.createdAt past s l.created

variable {l : Ledger} {past : List Instant} {s s' : Store} {d : Deed} {now : Instant}

/-- The empty ledger is `Sound` for the empty store. -/
theorem Sound.empty : Sound {} [] {} := ⟨List.nodup_nil, .empty _, .empty _⟩

/-- `Ledger.record` keeps `Sound`, when a deed that sets a time sets one later than all before
it. -/
theorem Sound.step (h : l.Sound past s) (hdone : d.Done now s s')
    (hlater : d.isWrite = true → ∀ t ∈ past, compare t now = .lt) :
    (l.record d).Sound (past ++ d.times now) s' := by
  have hs' := hdone.distinctIds h.distinct
  cases hdone with
  | added hcreated hupdated _ hnotes =>
    have hfirst : s'.notes.Perm (_ :: s.notes) := hnotes ▸ List.perm_append_singleton _ _
    exact ⟨hs', h.written.cons hupdated (hlater rfl) hfirst,
      h.created.cons hcreated (hlater rfl) hfirst⟩
  | patched hentry hcreated hupdated hcut hnotes =>
    refine ⟨hs', ?_, (h.created.replace hcut hnotes hcreated hentry).later now⟩
    have hraised := h.written.raise h.distinct hcut hnotes hupdated (hlater rfl)
    rwa [hentry] at hraised
  | removed hcut hnotes =>
    -- No time has passed that the ledger would have to know of.
    rw [Deed.times, Deed.isWrite, if_neg Bool.false_ne_true, List.append_nil]
    exact ⟨hs', h.written.strike h.distinct hcut hnotes, h.created.strike h.distinct hcut hnotes⟩

end Ledger

end NotePager

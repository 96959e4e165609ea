import NotePager.Proofs.Paging.Selection
import NotePager.Proofs.Store.Queries
import NotePager.Proofs.Store.Writes

/-!
# The notes of a listing in their order

What a listing pages through is one list: the selected notes of a store in the order of the listing
(`Store.listed`). When no two notes share an identifier, its positions rise strictly (`InOrder`),
and a list of notes in order is determined by the notes in it (`InOrder.eq_of_perm`). So a narrower
filter picks notes out of the list and leaves their order alone (`select_and`), the reversed order
is the list reversed (`listed_reversed`), and a note of the list cuts it into the notes before it
and those after it (`InOrder.notesAfter_eq`, `InOrder.notesBefore_eq`).
-/

namespace NotePager

open Position Std

/-- The positions of the notes rise strictly in the order of a listing. -/
def InOrder (sort : SortBy) (order : SortOrder) (notes : List Note) : Prop :=
  (notes.map (Position.ofNote · sort)).Pairwise (Precedes order)

instance (sort : SortBy) (order : SortOrder) (notes : List Note) :
    Decidable (InOrder sort order notes) :=
  inferInstanceAs (Decidable (List.Pairwise _ _))

/-- The notes that a listing is about, in its order. -/
def Store.listed (s : Store) (sel : Selection) (sort : SortBy) (order : SortOrder) : List Note :=
  s.select (sort.keys order) sel.accepts

/-- Those of the notes that come after a position. -/
def notesAfter (sort : SortBy) (order : SortOrder) (p : Position) (notes : List Note) : List Note :=
  notes.filter fun n => decide (Precedes order p (.ofNote n sort))

/-- Those of the notes that come before a position. -/
def notesBefore (sort : SortBy) (order : SortOrder) (p : Position) (notes : List Note) :
    List Note :=
  notes.filter fun n => decide (Precedes order (.ofNote n sort) p)

variable {s : Store} {sort : SortBy} {order : SortOrder}

/-! ## Lists of notes in order -/

namespace InOrder

variable {notes xs ys : List Note} {n : Note}

/-- Notes that are `InOrder` are determined by which notes they are. -/
theorem eq_of_perm (hxs : InOrder sort order xs) (hys : InOrder sort order ys)
    (h : xs.Perm ys) : xs = ys := by
  refine List.Perm.eq_of_pairwise (fun a b _ _ hab hba => ?_) (List.pairwise_map.1 hxs)
    (List.pairwise_map.1 hys) h
  exact absurd hba hab.asymm

/-- A sublist of notes that are `InOrder` is `InOrder`. -/
theorem sublist (h : InOrder sort order ys) (hs : xs.Sublist ys) : InOrder sort order xs :=
  List.Pairwise.sublist (hs.map _) h

/-- Two lists that are `InOrder` make one when the positions of the first all `Precedes` those of
the second. -/
theorem append (hxs : InOrder sort order xs) (hys : InOrder sort order ys)
    (h : ∀ a ∈ xs, ∀ b ∈ ys, Precedes order (.ofNote a sort) (.ofNote b sort)) :
    InOrder sort order (xs ++ ys) := by
  refine List.pairwise_map.2 (List.pairwise_append.2 ⟨List.pairwise_map.1 hxs, ?_, h⟩)
  exact List.pairwise_map.1 hys

/-- Notes that are `InOrder` are so in the reversed order when they are reversed. -/
theorem reverse (h : InOrder sort order notes) : InOrder sort order.reversed notes.reverse := by
  rw [InOrder, List.map_reverse, List.pairwise_reverse]
  exact h.imp precedes_reversed.2

/-- In notes that are `InOrder`, the positions of those in front of a note `Precedes` its own, which
`Precedes` those behind it. -/
theorem of_append (h : InOrder sort order (xs ++ n :: ys)) :
    (∀ m ∈ xs, Precedes order (.ofNote m sort) (.ofNote n sort)) ∧
      ∀ m ∈ ys, Precedes order (.ofNote n sort) (.ofNote m sort) := by
  obtain ⟨-, hys, hxs⟩ := List.pairwise_append.1 (List.pairwise_map.1 h)
  exact ⟨fun m hm => hxs m hm n (.head _), (List.pairwise_cons.1 hys).1⟩

/-- `notesAfter` the position of a note are those behind it, in notes that are `InOrder`. -/
theorem notesAfter_eq (h : InOrder sort order (xs ++ n :: ys)) :
    notesAfter sort order (.ofNote n sort) (xs ++ n :: ys) = ys := by
  obtain ⟨hxs, hys⟩ := h.of_append
  have hbefore : xs.filter (fun m => decide (Precedes order (.ofNote n sort) (.ofNote m sort)))
      = [] := by
    rw [List.filter_eq_nil_iff]
    intro m hm
    simpa using (hxs m hm).asymm
  have hafter : ys.filter (fun m => decide (Precedes order (.ofNote n sort) (.ofNote m sort)))
      = ys := by
    rw [List.filter_eq_self]
    intro m hm
    simpa using hys m hm
  rw [notesAfter, List.filter_append, List.filter_cons, hbefore, hafter]
  simp [Precedes.irrefl]

/-- `notesBefore` the position of a note are those in front of it, in notes that are `InOrder`. -/
theorem notesBefore_eq (h : InOrder sort order (xs ++ n :: ys)) :
    notesBefore sort order (.ofNote n sort) (xs ++ n :: ys) = xs := by
  -- Read backwards, the notes before the note are those after it.
  have hr : InOrder sort order.reversed (ys.reverse ++ n :: xs.reverse) := by
    simpa using h.reverse
  have := congrArg List.reverse hr.notesAfter_eq
  simpa [notesAfter, notesBefore, precedes_reversed, List.filter_reverse, List.filter_cons,
    Precedes.irrefl] using this

end InOrder

/-! ## Selecting from a store -/

namespace Store

/-- `Store.select` by the keys of a listing is `InOrder`, if identifiers are distinct. -/
theorem select_inOrder (hs : s.DistinctIds) (p : Predicate) :
    InOrder sort order (s.select (sort.keys order) p) := by
  have hids : ((s.select (sort.keys order) p).map Note.id).Nodup := by
    rw [((s.select_perm _ p).map Note.id).nodup_iff]
    exact hs.sublist (List.filter_sublist.map _)
  refine List.pairwise_map.2 (((s.select_pairwise _ p).and (List.pairwise_map.1 hids)).imp ?_)
  rintro a b ⟨hab, hne⟩
  -- The identifiers differ, so the notes compare one way or the other.
  rcases precedes_or_precedes sort order hne with h | h
  · exact h
  · rw [compareBy_keys_eq_gt_iff.2 h] at hab
    cases hab

/-- `Store.select` with a further condition is the `filter` of what is selected without it. -/
theorem select_and (hs : s.DistinctIds) (p q : Predicate) :
    s.select (sort.keys order) (fun n => p n && q n)
      = (s.select (sort.keys order) p).filter q := by
  refine (select_inOrder hs _).eq_of_perm ((select_inOrder hs p).sublist List.filter_sublist) ?_
  refine (s.select_perm _ _).trans (.trans ?_ ((s.select_perm _ p).filter q).symm)
  rw [List.filter_filter]
  simp only [Bool.and_comm]
  exact .refl _

/-- `Store.select` in the reversed order is the `reverse` of what is selected. -/
theorem select_reversed (hs : s.DistinctIds) (p : Predicate) :
    s.select (sort.keys order.reversed) p = (s.select (sort.keys order) p).reverse := by
  refine (select_inOrder hs p).eq_of_perm (select_inOrder hs p).reverse ?_
  exact (s.select_perm _ p).trans ((List.reverse_perm _).trans (s.select_perm _ p)).symm

variable {sel : Selection}

/-- `Store.listed` has the notes of the store that the selection `accepts`. -/
theorem mem_listed {n : Note} :
    n ∈ s.listed sel sort order ↔ n ∈ s.notes ∧ sel.accepts n = true :=
  mem_select

/-- `Store.listed` is as long as the store has notes that the selection `accepts`. -/
theorem length_listed (s : Store) (sel : Selection) (sort : SortBy) (order : SortOrder) :
    (s.listed sel sort order).length = s.notes.countP sel.accepts := by
  rw [listed, (s.select_perm _ _).length_eq, List.countP_eq_length_filter]

/-- `Store.listed` is `InOrder`, if identifiers are distinct. -/
theorem listed_inOrder (hs : s.DistinctIds) : InOrder sort order (s.listed sel sort order) :=
  select_inOrder hs _

/-- `Store.listed` in the reversed order is its `reverse`. -/
theorem listed_reversed (hs : s.DistinctIds) :
    s.listed sel sort order.reversed = (s.listed sel sort order).reverse :=
  select_reversed hs _

end Store

end NotePager

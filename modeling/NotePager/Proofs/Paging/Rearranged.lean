import NotePager.Proofs.Paging.Alike
import NotePager.Proofs.Paging.Walk

/-!
# The order of a store

A listing depends on the notes of a store and not on the order in which they are kept. The order of
the store shows only where notes are equal in the order of a query, and a listing never looks there:
it asks for windows of notes in an order without ties, for counts, and for a note by its identifier.
So each call is answered alike by two stores that hold the same notes (`Store.find_of_perm`,
`Store.count_of_perm`, `Store.find_named_of_perm`), and stores that answer those calls alike
(`Store.ListsAlike`) answer every listing alike (`alike_fetch`).
-/

namespace NotePager

open Access

namespace Store

variable {s t : Store} (hs : s.DistinctIds) (h : s.notes.Perm t.notes)
include h

/-- `DistinctIds` is closed under permutation of the notes. -/
theorem DistinctIds.of_perm (hs : s.DistinctIds) : t.DistinctIds :=
  (h.map Note.id).nodup_iff.1 hs

/-- `Store.count` is invariant under permutation of the notes. -/
theorem count_of_perm (f : Filter) : s.count f = t.count f := by
  rw [count, count]
  exact congrArg (f.compile.map ·) (funext fun p => h.countP_eq p)

include hs

/-- `Store.find` with the keys of a listing is invariant under permutation of the notes. -/
theorem find_of_perm {q : Query} {sort : SortBy} {order : SortOrder}
    (hq : q.sort = sort.keys order) : s.find q = t.find q := by
  have hselect (p : Predicate) : s.select (sort.keys order) p = t.select (sort.keys order) p := by
    refine (select_inOrder hs p).eq_of_perm (select_inOrder (hs.of_perm h) p) ?_
    exact (s.select_perm _ p).trans ((h.filter p).trans (t.select_perm _ p).symm)
  rw [find, find, hq]
  exact congrArg (q.filter.compile.map ·) (funext fun p => by rw [hselect])

/-- `Store.find` with a filter that accepts one identifier at most is invariant under permutation of
the notes, whatever its order. -/
theorem find_named_of_perm {q : Query} {p : Predicate} {id : NoteId}
    (hp : q.filter.compile = .ok p) (hid : ∀ n, p n = true → n.id = id) : s.find q = t.find q := by
  have hids {u : Store} (hu : u.DistinctIds) :
      (u.select q.sort p).Pairwise fun m n => m.id ≠ n.id := by
    have hnodup : ((u.select q.sort p).map Note.id).Nodup := by
      rw [((u.select_perm _ p).map Note.id).nodup_iff]
      exact hu.sublist (List.filter_sublist.map _)
    exact List.pairwise_map.1 hnodup
  have hselect : s.select q.sort p = t.select q.sort p := by
    refine List.Perm.eq_of_pairwise (fun m n hm hn hne _ => ?_) (hids hs) (hids (hs.of_perm h))
      ((s.select_perm _ p).trans ((h.filter p).trans (t.select_perm _ p).symm))
    exact absurd ((hid m (mem_select.1 hm).2).trans (hid n (mem_select.1 hn).2).symm) hne
  rw [find, find, hp]
  exact congrArg (fun notes => Except.ok (window q.skip q.limit notes)) hselect

end Store

/-- Stores with permuted notes are related by `ListsAlike`. -/
theorem Store.ListsAlike.of_perm {s t : Store} (hs : s.DistinctIds) (h : s.notes.Perm t.notes) :
    s.ListsAlike t :=
  ⟨count_of_perm h, fun _ _ _ => find_of_perm hs h, fun _ _ _ => find_named_of_perm hs h⟩

namespace Listing

/-- `answer` is invariant under permutation of the notes, for every owner and request. So is the
result of `fetch` on any connection, with faults and cancellation. -/
theorem fetch_of_perm {s t : Store} (hs : s.DistinctIds) (h : s.notes.Perm t.notes) (owner : Owner)
    (r : ListRequest) : answer s owner r = answer t owner r
      ∧ ∀ c : Connection, (fetch owner r (c.to s)).1 = (fetch owner r (c.to t)).1 := by
  have hsame (c : Connection) : (fetch owner r (c.to s)).1 = (fetch owner r (c.to t)).1 :=
    (alike_fetch (.of_perm hs h) (.refl _) rfl).fst_eq c
  exact ⟨hsame { store := s }, hsame⟩

/-- `fetch_of_perm` for `teaStore` and its notes reversed, on a fresh connection and on one whose
first query for notes is never answered. -/
theorem fetch_of_perm_teaStore :
    answer teaStore ⟨"ann"⟩ teaRequest = answer ⟨teaStore.notes.reverse⟩ ⟨"ann"⟩ teaRequest
    ∧ (fetch ⟨"ann"⟩ teaRequest { store := teaStore, faults := [⟨.find, 1, .hang⟩] }).1
      = (fetch ⟨"ann"⟩ teaRequest
          { store := ⟨teaStore.notes.reverse⟩, faults := [⟨.find, 1, .hang⟩] }).1 := by
  have hdistinct : teaStore.DistinctIds := by decide
  have hreverse : teaStore.notes.Perm teaStore.notes.reverse := (List.reverse_perm _).symm
  obtain ⟨hanswer, hfetch⟩ := fetch_of_perm (t := ⟨teaStore.notes.reverse⟩) hdistinct hreverse
    ⟨"ann"⟩ teaRequest
  exact ⟨hanswer, hfetch { store := teaStore, faults := [⟨.find, 1, .hang⟩] }⟩

end Listing

end NotePager

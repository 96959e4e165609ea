import Mathlib.Logic.Relation
import NotePager.Proofs.Store.Writes

/-!
# Histories of a store

A history is a store together with the identifiers that have been in use. As long as notes are
inserted with identifiers that were never used before, an identifier stands for one time of creation
(`History.Dates.later`), even when its note has been removed.
-/

namespace NotePager

/-- A store, and the identifiers that have been in use. -/
structure History where
  store : Store
  used : List NoteId

namespace History

/-- The history that begins with a store. -/
def begin (s : Store) : History := ⟨s, s.notes.map Note.id⟩

/-- A write that inserts no note with an identifier that has been in use. -/
def Step (h h' : History) : Prop :=
  ∃ w : StoreWrite, (∀ id ∈ w.newIds, id ∉ h.used) ∧ h' = ⟨w.apply h.store, w.newIds ++ h.used⟩

/-- Any number of such writes. -/
def Later : History → History → Prop := Relation.ReflTransGen Step

/-- The notes of the store have identifiers of their own, and these are in use. -/
structure Sound (h : History) : Prop where
  distinct : h.store.DistinctIds
  known : ∀ n ∈ h.store.notes, n.id ∈ h.used

/-- The identifier is in use for a note that was created at this time. -/
structure Dates (h : History) (id : NoteId) (t : Instant) : Prop where
  known : id ∈ h.used
  date : ∀ n ∈ h.store.notes, n.id = id → n.createdAt = t

variable {s : Store} {h h' : History} {id : NoteId} {t : Instant}

theorem Sound.begin (hs : s.DistinctIds) : (begin s).Sound where
  distinct := hs
  known _ hn := List.mem_map_of_mem hn

/-- A note in the store `Dates` its identifier. -/
theorem Sound.dates (hh : h.Sound) {n : Note} (hn : n ∈ h.store.notes) :
    h.Dates n.id n.createdAt where
  known := hh.known n hn
  date _ hm hid := by rw [hh.distinct.eq_of_id hm hn hid]

theorem Sound.step (hh : h.Sound) (hstep : Step h h') : h'.Sound := by
  obtain ⟨w, -, rfl⟩ := hstep
  refine ⟨w.distinctIds_apply hh.distinct, fun n hn => ?_⟩
  rcases StoreWrite.mem_apply hn with ⟨m, hm, hbirth⟩ | rfl
  · have hid : m.id = n.id := congrArg Prod.fst hbirth
    exact List.mem_append_right _ (hid ▸ hh.known m hm)
  · exact List.mem_append_left _ (List.mem_singleton_self _)

/-- `Dates` is kept by `Step`, since no other note takes the identifier over. -/
theorem Dates.step (hd : h.Dates id t) (hstep : Step h h') : h'.Dates id t := by
  obtain ⟨w, hfresh, rfl⟩ := hstep
  refine ⟨List.mem_append_right _ hd.known, fun n hn hid => ?_⟩
  rcases StoreWrite.mem_apply hn with ⟨m, hm, hbirth⟩ | rfl
  · have hid' : m.id = n.id := congrArg Prod.fst hbirth
    have hdate : m.createdAt = n.createdAt := congrArg (·.2.2) hbirth
    exact hdate ▸ hd.date m hm (hid'.trans hid)
  · exact absurd (hid ▸ hd.known) (hfresh n.id (List.mem_singleton_self _))

theorem Sound.later (hh : h.Sound) (hlater : Later h h') : h'.Sound := by
  induction hlater with
  | refl => exact hh
  | tail _ hstep ih => exact ih.step hstep

theorem Dates.later (hd : h.Dates id t) (hlater : Later h h') : h'.Dates id t := by
  induction hlater with
  | refl => exact hd
  | tail _ hstep ih => exact ih.step hstep

end History

end NotePager

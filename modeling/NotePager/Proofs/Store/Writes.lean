import Mathlib.Data.List.Nodup
import NotePager.Store.Basic

/-!
# Writing to a store

What writing does to the notes of a store, and what it never does. As long as no two notes share an
identifier (`Store.DistinctIds`), no write makes two of them share one
(`StoreWrite.distinctIds_apply`), and a write reaches one note at most: the notes can be cut around
the one that is patched or removed (`Store.update_of_cut`, `Store.delete_of_cut`). A patch leaves
the identifier, the owner and the time of creation of a note alone (`Note.birth`), so a note that is
in the store after a write was born there before, or has just been inserted
(`StoreWrite.mem_apply`).
-/

namespace NotePager

/-! ## Notes by identifier -/

/-- No two notes of the store have the same identifier. -/
def Store.DistinctIds (s : Store) : Prop := (s.notes.map Note.id).Nodup

instance (s : Store) : Decidable s.DistinctIds := inferInstanceAs (Decidable (List.Nodup _))

namespace Store

variable {s : Store} {n : Note}

/-- With `DistinctIds`, notes of the store with the same identifier are equal. -/
theorem DistinctIds.eq_of_id (hs : s.DistinctIds) {m : Note} (hm : m ∈ s.notes) (hn : n ∈ s.notes)
    (h : m.id = n.id) : m = n :=
  List.inj_on_of_nodup_map hs hm hn h

/-- With `DistinctIds`, a note with the identifier of `n` is in the store exactly when it is `n`. -/
theorem DistinctIds.mem_iff_of_id (hs : s.DistinctIds) (hn : n ∈ s.notes) {m : Note}
    (h : m.id = n.id) : m ∈ s.notes ↔ n = m :=
  ⟨fun hm => (hs.eq_of_id hm hn h).symm, fun heq => heq ▸ hn⟩

/-- With `DistinctIds`, `List.find?` by the identifier of `n` and a predicate of `n` is `n`. -/
theorem DistinctIds.find?_eq_some (hs : s.DistinctIds) {q : Note → Bool} (hn : n ∈ s.notes)
    (hq : q n = true) : s.notes.find? (fun m => q m && m.id == n.id) = some n := by
  cases hm : s.notes.find? fun m => q m && m.id == n.id with
  | none =>
    have hnone := List.find?_eq_none.1 hm n hn
    simp [hq] at hnone
  | some m =>
    have hsome := List.find?_some hm
    simp only [Bool.and_eq_true, beq_iff_eq] at hsome
    rw [hs.eq_of_id (List.mem_of_find?_eq_some hm) hn hsome.2]

end Store

/-! ## Notes that are patched -/

/-- What no patch changes about a note. -/
def Note.birth (n : Note) : NoteId × Owner × Instant := (n.id, n.owner, n.createdAt)

/-- `Patch.apply` keeps `Note.birth`. -/
theorem Patch.birth_apply (patch : Patch) (n : Note) (now : Instant) :
    (patch.apply n now).birth = n.birth := rfl

/-- `patchFirst` keeps every map that the patch keeps. -/
theorem Store.map_patchFirst {f : Note → Note} {g : Note → α} (hg : ∀ n, g (f n) = g n)
    (p : Note → Bool) (notes : List Note) : (patchFirst p f notes).2.map g = notes.map g := by
  induction notes with
  | nil => rfl
  | cons n ns ih =>
    cases hp : p n with
    | true => simp [patchFirst, hp, hg]
    | false => simp [patchFirst, hp, ih]

/-! ## Single writes -/

namespace Store

variable {s : Store}

/-- `patchFirst` of notes that all fail the condition. -/
theorem patchFirst_eq_none {p : Note → Bool} {notes : List Note} (h : ∀ n ∈ notes, p n = false)
    (f : Note → Note) : patchFirst p f notes = (none, notes) := by
  induction notes with
  | nil => rfl
  | cons n ns ih =>
    have hn : p n = false := h n (.head _)
    have hns := ih fun m hm => h m (.tail _ hm)
    simp only [patchFirst, hn, hns]
    rfl

/-- `patchFirst` around the first note that meets the condition. -/
theorem patchFirst_eq_some {p : Note → Bool} {front : List Note} {n : Note}
    (hfront : ∀ m ∈ front, p m = false) (hn : p n = true) (f : Note → Note) (back : List Note) :
    patchFirst p f (front ++ n :: back) = (some (f n), front ++ f n :: back) := by
  induction front with
  | nil => simp only [List.nil_append, patchFirst, hn, if_true]
  | cons m ms ih =>
    have hm : p m = false := hfront m (.head _)
    have hms := ih fun k hk => hfront k (.tail _ hk)
    simp only [List.cons_append, patchFirst, hm, hms]
    rfl

/-- `Store.isOwned` as a conjunction. -/
theorem isOwned_iff {owner : Owner} {id : NoteId} {n : Note} :
    isOwned owner id n = true ↔ n.id = id ∧ n.owner = owner := by
  simp [isOwned]

/-- With `DistinctIds`, the notes on both sides of a note have other identifiers. -/
theorem DistinctIds.ne_of_cut (hs : s.DistinctIds) {front back : List Note} {n : Note}
    (hcut : s.notes = front ++ n :: back) : ∀ m ∈ front ++ back, m.id ≠ n.id := by
  have hnodup : ((n :: (front ++ back)).map Note.id).Nodup := by
    have hperm : (front ++ n :: back).Perm (n :: (front ++ back)) := List.perm_middle
    rw [← (hperm.map Note.id).nodup_iff, ← hcut]
    exact hs
  intro m hm hid
  rw [List.map_cons, List.nodup_cons] at hnodup
  exact hnodup.1 (hid ▸ List.mem_map_of_mem hm)

/-- `DistinctIds` is kept by appending a note with a new identifier. -/
theorem DistinctIds.concat (hs : s.DistinctIds) {s' : Store} {note : Note}
    (hnotes : s'.notes = s.notes ++ [note]) (hnew : ∀ n ∈ s.notes, n.id ≠ note.id) :
    s'.DistinctIds := by
  rw [DistinctIds, hnotes, List.map_append, List.map_singleton, ← List.concat_eq_append]
  refine List.Nodup.concat (fun hmem => ?_) hs
  obtain ⟨n, hn, hid⟩ := List.mem_map.1 hmem
  exact hnew n hn hid

/-- `Store.insert` refuses a taken identifier. -/
theorem insert_of_taken {note : Note} (h : ∃ n ∈ s.notes, n.id = note.id) :
    s.insert note = none := by
  obtain ⟨n, hn, hid⟩ := h
  have htaken : s.notes.any (·.id == note.id) = true :=
    List.any_eq_true.2 ⟨n, hn, beq_iff_eq.2 hid⟩
  simp only [insert, htaken, if_true]

/-- `Store.insert` appends a note with a new identifier. -/
theorem insert_of_new {note : Note} (h : ∀ n ∈ s.notes, n.id ≠ note.id) :
    s.insert note = some ⟨s.notes ++ [note]⟩ := by
  have hfree : s.notes.any (·.id == note.id) = false :=
    List.any_eq_false.2 fun n hn hid => h n hn (beq_iff_eq.1 hid)
  simp only [insert, hfree, Bool.false_eq_true, if_false]

/-- The owner has no note with the identifier, or the notes of the store are cut around one. -/
theorem absent_or_cut (s : Store) (owner : Owner) (id : NoteId) :
    (∀ n ∈ s.notes, n.id = id → n.owner ≠ owner)
    ∨ ∃ front n back, s.notes = front ++ n :: back ∧ n.id = id ∧ n.owner = owner := by
  by_cases habsent : ∀ n ∈ s.notes, n.id = id → n.owner ≠ owner
  · exact .inl habsent
  · push Not at habsent
    obtain ⟨n, hn, hid, howner⟩ := habsent
    obtain ⟨front, back, hcut⟩ := List.append_of_mem hn
    exact .inr ⟨front, n, back, hcut, hid, howner⟩

/-- Membership of a note with another identifier than the one cut around. -/
theorem mem_cut_iff_of_ne {front back : List Note} {m n : Note} (h : m.id ≠ n.id) :
    m ∈ front ++ n :: back ↔ m ∈ front ++ back := by
  have hmn : m ≠ n := fun heq => h (congrArg Note.id heq)
  simp only [List.mem_append, List.mem_cons, hmn, false_or]

/-- `Store.update` that finds no note leaves the store unchanged. -/
theorem update_none {owner : Owner} {id : NoteId} {patch : Patch} {now : Instant}
    (h : (s.update owner id patch now).1 = none) : (s.update owner id patch now).2 = s := by
  have hnone (notes : List Note)
      (h : (patchFirst (isOwned owner id) (patch.apply · now) notes).1 = none) :
      (patchFirst (isOwned owner id) (patch.apply · now) notes).2 = notes := by
    induction notes with
    | nil => rfl
    | cons n ns ih =>
      cases hn : isOwned owner id n with
      | true => simp only [patchFirst, hn, if_true, reduceCtorEq] at h
      | false =>
        simp only [patchFirst, hn, Bool.false_eq_true, if_false] at h ⊢
        rw [ih h]
  exact congrArg mk (hnone s.notes h)

/-- `Store.delete` that finds no note leaves the store unchanged. -/
theorem delete_false {owner : Owner} {id : NoteId} (h : (s.delete owner id).1 = false) :
    (s.delete owner id).2 = s := by
  refine congrArg mk (List.filter_eq_self.2 fun n hn => ?_)
  rw [Bool.eq_false_iff.2 (List.any_eq_false.1 h n hn), Bool.not_false]

section
variable {owner : Owner} {id : NoteId} {front back : List Note} {n : Note}

/-- `Store.isOwned` fails everywhere when the owner has no note with the identifier. -/
theorem isOwned_of_absent (habsent : ∀ n ∈ s.notes, n.id = id → n.owner ≠ owner) :
    ∀ n ∈ s.notes, isOwned owner id n = false := by
  intro n hn
  rw [← Bool.not_eq_true, isOwned_iff]
  exact fun ⟨hid, howner⟩ => habsent n hn hid howner

/-- With `DistinctIds`, `Store.isOwned` fails beside the note with the identifier. -/
theorem isOwned_beside (hs : s.DistinctIds) (hcut : s.notes = front ++ n :: back)
    (hid : n.id = id) : ∀ m ∈ front ++ back, isOwned owner id m = false := by
  intro m hm
  rw [← Bool.not_eq_true, isOwned_iff]
  exact fun ⟨hmid, _⟩ => hs.ne_of_cut hcut m hm (hmid.trans hid.symm)

/-- `Store.update` when the owner has no note with the identifier. -/
theorem update_of_absent (habsent : ∀ n ∈ s.notes, n.id = id → n.owner ≠ owner) (patch : Patch)
    (now : Instant) : s.update owner id patch now = (none, s) := by
  simp only [update, patchFirst_eq_none (isOwned_of_absent habsent)]

/-- `Store.update` around the owner's note with the identifier. -/
theorem update_of_cut (hs : s.DistinctIds) (hcut : s.notes = front ++ n :: back) (hid : n.id = id)
    (howner : n.owner = owner) (patch : Patch) (now : Instant) :
    s.update owner id patch now
      = (some (patch.apply n now), ⟨front ++ patch.apply n now :: back⟩) := by
  have hfront : ∀ m ∈ front, isOwned owner id m = false := fun m hm =>
    isOwned_beside hs hcut hid m (List.mem_append_left _ hm)
  have hpatch := patchFirst_eq_some hfront (isOwned_iff.2 ⟨hid, howner⟩) (patch.apply · now) back
  simp only [update, hcut, hpatch]

/-- `Store.delete` when the owner has no note with the identifier. -/
theorem delete_of_absent (habsent : ∀ n ∈ s.notes, n.id = id → n.owner ≠ owner) :
    s.delete owner id = (false, s) := by
  have hnone := isOwned_of_absent habsent
  have hfound : s.notes.any (isOwned owner id) = false :=
    List.any_eq_false.2 fun n hn => by simp [hnone n hn]
  have hkept : s.notes.filter (fun n => !isOwned owner id n) = s.notes :=
    List.filter_eq_self.2 fun n hn => by rw [hnone n hn, Bool.not_false]
  simp only [delete, hfound, hkept]

/-- `Store.delete` around the owner's note with the identifier. -/
theorem delete_of_cut (hs : s.DistinctIds) (hcut : s.notes = front ++ n :: back) (hid : n.id = id)
    (howner : n.owner = owner) : s.delete owner id = (true, ⟨front ++ back⟩) := by
  have hn := isOwned_iff.2 ⟨hid, howner⟩
  have hothers : ∀ m ∈ front ++ back, isOwned owner id m = false := isOwned_beside hs hcut hid
  have hfound : s.notes.any (isOwned owner id) = true :=
    List.any_eq_true.2 ⟨n, by simp [hcut], hn⟩
  have hkept : (front ++ back).filter (fun n => !isOwned owner id n) = front ++ back :=
    List.filter_eq_self.2 fun m hm => by rw [hothers m hm, Bool.not_false]
  have hfilter : s.notes.filter (fun n => !isOwned owner id n) = front ++ back := by
    rw [List.filter_append] at hkept
    rw [hcut, List.filter_append, List.filter_cons, hn]
    exact hkept
  simp only [delete, hfound, hfilter]

end

end Store

/-! ## Writes -/

/-- One write to a store. -/
inductive StoreWrite where
  | insert (note : Note)
  | update (owner : Owner) (id : NoteId) (patch : Patch) (now : Instant)
  | delete (owner : Owner) (id : NoteId)

namespace StoreWrite

/-- The store after a write. An insertion that is refused leaves it as it was. -/
def apply (s : Store) : StoreWrite → Store
  | insert note => (s.insert note).getD s
  | update owner id patch now => (s.update owner id patch now).2
  | delete owner id => (s.delete owner id).2

variable {s : Store}

/-- `Store.update` keeps the births of the notes. -/
theorem births_update (owner : Owner) (id : NoteId) (patch : Patch) (now : Instant) :
    (apply s (.update owner id patch now)).notes.map Note.birth = s.notes.map Note.birth :=
  Store.map_patchFirst (fun n => patch.birth_apply n now) _ _

/-- `StoreWrite.apply` of an insertion appends the note unless its identifier is taken. -/
theorem apply_insert (note : Note) : apply s (.insert note)
    = if s.notes.any (·.id == note.id) then s else ⟨s.notes ++ [note]⟩ := by
  by_cases htaken : s.notes.any (·.id == note.id) = true
  · simp only [apply, Store.insert, htaken, if_true, Option.getD_none]
  · simp only [apply, Store.insert, htaken, Bool.false_eq_true, if_false, Option.getD_some]

/-- A note in the store after a write has the birth of one before it, or has been inserted. -/
theorem mem_apply {w : StoreWrite} {n : Note} (hn : n ∈ (w.apply s).notes) :
    (∃ m ∈ s.notes, m.birth = n.birth) ∨ w = .insert n := by
  cases w with
  | insert note =>
    rw [apply_insert] at hn
    by_cases htaken : s.notes.any (·.id == note.id) = true
    · rw [if_pos htaken] at hn
      exact .inl ⟨n, hn, rfl⟩
    · rw [if_neg htaken] at hn
      rcases List.mem_append.1 hn with hold | hnew
      · exact .inl ⟨n, hold, rfl⟩
      · exact .inr (by rw [List.mem_singleton.1 hnew])
  | update owner id patch now =>
    have hbirth : n.birth ∈ s.notes.map Note.birth := by
      rw [← births_update owner id patch now]
      exact List.mem_map_of_mem hn
    exact .inl (List.mem_map.1 hbirth)
  | delete owner id => exact .inl ⟨n, (List.mem_filter.1 hn).1, rfl⟩

/-- `StoreWrite.apply` keeps `DistinctIds`. -/
theorem distinctIds_apply (hs : s.DistinctIds) (w : StoreWrite) : (w.apply s).DistinctIds := by
  cases w with
  | insert note =>
    rw [apply_insert]
    by_cases htaken : s.notes.any (·.id == note.id) = true
    · rw [if_pos htaken]
      exact hs
    · rw [if_neg htaken]
      exact hs.concat rfl fun n hn hid =>
        htaken (List.any_eq_true.2 ⟨n, hn, beq_iff_eq.2 hid⟩)
  | update owner id patch now =>
    have hids := congrArg (List.map Prod.fst) (births_update (s := s) owner id patch now)
    rw [List.map_map, List.map_map] at hids
    exact (congrArg List.Nodup hids).mpr hs
  | delete owner id => exact List.Nodup.sublist (List.filter_sublist.map _) hs

/-- The identifiers that a write brings into use. -/
def newIds : StoreWrite → List NoteId
  | insert note => [note.id]
  | update .. => []
  | delete .. => []

end StoreWrite

end NotePager

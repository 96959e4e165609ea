import NotePager.Proofs.Store.Writes

/-!
# The notes of one owner

`Store.only` is a store reduced to the notes of one owner. Operations of the owner are the same on
both: what looks at the notes of the owner alone finds the same ones (`Store.find?_only`,
`Store.select_only` and their like), and patching or removing one of them comes to the same and
leaves stores that are the same for the owner (`Store.update_only`, `Store.delete_only`). What
another owner writes does not reach these notes (`Store.update_only_of_ne` and its like).
-/

namespace NotePager.Store

/-- The store with the notes of one owner and no others. -/
def only (s : Store) (u : Owner) : Store := ⟨s.notes.filter (·.owner == u)⟩

variable {s : Store} {u v : Owner}

/-! ## Reading -/

section
variable {p : Predicate} (hp : ∀ n, p n = true → n.owner = u)
include hp

/-- `List.filter` by a predicate of the owner's notes is the same on `s.only u`. -/
theorem filter_only : (s.only u).notes.filter p = s.notes.filter p := by
  rw [only, List.filter_filter]
  refine List.filter_congr fun n _ => ?_
  cases hn : p n with
  | false => rfl
  | true => simp [hp n hn]

/-- `List.countP` by a predicate of the owner's notes is the same on `s.only u`. -/
theorem countP_only : (s.only u).notes.countP p = s.notes.countP p := by
  rw [List.countP_eq_length_filter, List.countP_eq_length_filter, filter_only hp]

/-- `List.find?` by a predicate of the owner's notes is the same on `s.only u`. -/
theorem find?_only : (s.only u).notes.find? p = s.notes.find? p := by
  rw [← List.head?_filter, ← List.head?_filter, filter_only hp]

/-- `Store.select` by a predicate of the owner's notes is the same on `s.only u`. -/
theorem select_only (keys : List SortKey) : (s.only u).select keys p = s.select keys p := by
  rw [select, select, filter_only hp]

end

/-! ## Writing -/

section
variable {p q : Note → Bool} {f : Note → Note} (hq : ∀ n, q (f n) = q n)
include hq

/-- `patchFirst` commutes with a filter that keeps every note it may patch. -/
theorem patchFirst_filter (hpq : ∀ n, p n = true → q n = true) (notes : List Note) :
    patchFirst p f (notes.filter q)
      = ((patchFirst p f notes).1, (patchFirst p f notes).2.filter q) := by
  induction notes with
  | nil => rfl
  | cons n ns ih =>
    cases hp : p n with
    | true => simp [patchFirst, hp, hq, hpq n hp]
    | false =>
      cases hn : q n with
      | true => simp [patchFirst, hp, hn, ih]
      | false => simp [patchFirst, hp, hn, ih]

/-- `patchFirst` is invisible to a filter that keeps no note it may patch. -/
theorem filter_patchFirst (hpq : ∀ n, p n = true → q n = false) (notes : List Note) :
    (patchFirst p f notes).2.filter q = notes.filter q := by
  induction notes with
  | nil => rfl
  | cons n ns ih =>
    cases hp : p n with
    | true => simp [patchFirst, hp, hq, hpq n hp]
    | false => simp [patchFirst, hp, List.filter_cons, ih]

end

/-- `Store.update` by `u` commutes with `Store.only u`. -/
theorem update_only (id : NoteId) (patch : Patch) (now : Instant) :
    (s.only u).update u id patch now
      = ((s.update u id patch now).1, (s.update u id patch now).2.only u) := by
  have hpatch := patchFirst_filter (p := isOwned u id) (q := (·.owner == u))
    (f := (patch.apply · now)) (fun n => rfl) (fun n hn => (Bool.and_eq_true_iff.1 hn).2) s.notes
  simp only [update, only, hpatch]

/-- `Store.update` by `u` leaves the notes of other owners unchanged. -/
theorem update_others (u : Owner) (id : NoteId) (patch : Patch) (now : Instant) :
    (s.update u id patch now).2.notes.filter (·.owner != u) = s.notes.filter (·.owner != u) := by
  refine filter_patchFirst (f := (patch.apply · now)) (fun n => rfl) (fun n hn => ?_) s.notes
  have howner : (n.owner == u) = true := (Bool.and_eq_true_iff.1 hn).2
  rw [bne, howner, Bool.not_true]

/-- `Store.update` by another owner leaves `s.only u` unchanged. -/
theorem update_only_of_ne (h : v ≠ u) (id : NoteId) (patch : Patch) (now : Instant) :
    (s.update v id patch now).2.only u = s.only u := by
  have hpatch := filter_patchFirst (p := isOwned v id) (q := (·.owner == u))
    (f := (patch.apply · now)) (fun n => rfl) (fun n hn => ?_) s.notes
  · simp only [update, only, hpatch]
  · have howner : n.owner = v := beq_iff_eq.1 (Bool.and_eq_true_iff.1 hn).2
    exact beq_eq_false_iff_ne.2 (howner ▸ h)

/-- `Store.delete` by `u` commutes with `Store.only u`. -/
theorem delete_only (id : NoteId) :
    (s.only u).delete u id = ((s.delete u id).1, (s.delete u id).2.only u) := by
  have hfound : (s.only u).notes.any (isOwned u id) = s.notes.any (isOwned u id) := by
    rw [only, List.any_filter]
    refine congrArg (s.notes.any ·) (funext fun n => ?_)
    rw [isOwned, Bool.and_comm, Bool.and_assoc, Bool.and_self]
  have hkept : (s.only u).notes.filter (fun n => !isOwned u id n)
      = (s.notes.filter fun n => !isOwned u id n).filter (·.owner == u) := by
    rw [only, List.filter_filter, List.filter_filter]
    simp only [Bool.and_comm]
  simp only [delete, hfound, hkept]
  rfl

/-- `Store.delete` by `u` leaves the notes of other owners unchanged. -/
theorem delete_others (u : Owner) (id : NoteId) :
    (s.delete u id).2.notes.filter (·.owner != u) = s.notes.filter (·.owner != u) := by
  simp only [delete, List.filter_filter]
  refine List.filter_congr fun n _ => ?_
  cases hn : n.owner == u with
  | true => simp [bne, hn]
  | false => simp [isOwned, hn]

/-- `Store.delete` by another owner leaves `s.only u` unchanged. -/
theorem delete_only_of_ne (h : v ≠ u) (id : NoteId) : (s.delete v id).2.only u = s.only u := by
  simp only [delete, only, List.filter_filter]
  refine congrArg Store.mk (List.filter_congr fun n _ => ?_)
  cases hn : n.owner == u with
  | false => rfl
  | true =>
    have hne : (n.owner == v) = false := beq_eq_false_iff_ne.2 fun hv => h (hv ▸ beq_iff_eq.1 hn)
    simp [isOwned, hne]

/-- `Store.insert` of another owner's note leaves `s.only u` unchanged. -/
theorem insert_only_of_ne (note : Note) (h : note.owner ≠ u) :
    ((s.insert note).getD s).only u = s.only u := by
  by_cases htaken : s.notes.any (·.id == note.id) = true
  · simp only [insert, htaken, if_true, Option.getD_none]
  · simp only [insert, htaken, Bool.false_eq_true, if_false, Option.getD_some]
    simp [only, List.filter_append, h]

/-- `Store.insert` of a note of `u` with a new identifier appends it, in `s` and in `s.only u`. -/
theorem insert_only (note : Note) (hnew : ∀ n ∈ s.notes, n.id ≠ note.id)
    (howner : note.owner = u) : s.insert note = some ⟨s.notes ++ [note]⟩
      ∧ (s.only u).insert note = some (only ⟨s.notes ++ [note]⟩ u) := by
  refine ⟨insert_of_new hnew, ?_⟩
  have honly : ∀ n ∈ (s.only u).notes, n.id ≠ note.id := fun n hn =>
    hnew n (List.mem_filter.1 hn).1
  rw [insert_of_new honly]
  simp [only, List.filter_append, howner]

end NotePager.Store

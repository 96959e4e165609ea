import NotePager.Paging.Listing
import NotePager.Proofs.Paging.Cursor
import NotePager.Proofs.Paging.Selection

/-!
# The two sides of a position

The order of a listing is asked for in two forms: as keys to sort by, and as the filter for the
notes after a position. At the position of a note both forms mean the same, reading on
(`Filter.compile_after_ofNote`) and reading back (`Filter.compile_before_ofNote`). So the two
filters divide the notes into those on either side of the position, and only a note with that sorted
value and that identifier is on neither (`Position.Divides`). A cursor with a title carries the
position of its note, whatever has become of the note (`Position.divides_notes`).
-/

namespace NotePager

variable {sort : SortBy} {order : SortOrder}

/-- `SortBy.keys` of the reversed order are the keys `reversed` one by one. -/
theorem SortBy.keys_reversed (sort : SortBy) (order : SortOrder) :
    sort.keys order.reversed = (sort.keys order).map SortKey.reversed := rfl

namespace Filter

/-- `Filter.after` the position of a note lets through the notes that `compareBy` the keys finds
greater. -/
theorem compile_after_ofNote (sort : SortBy) (order : SortOrder) (y : Note) :
    (Filter.after sort order (.ofNote y sort)).compile
      = .ok fun x => compareBy (sort.keys order) x y == .gt := by
  rw [compile_after]
  refine congrArg Except.ok (funext fun x => ?_)
  rw [Bool.eq_iff_iff, decide_eq_true_iff, beq_iff_eq, compareBy_keys_eq_gt_iff]

/-- `Filter.after` the position of a note in the reversed order lets through the notes that
`compareBy` the keys finds less. -/
theorem compile_before_ofNote (sort : SortBy) (order : SortOrder) (y : Note) :
    (Filter.after sort order.reversed (.ofNote y sort)).compile
      = .ok fun x => compareBy (sort.keys order) x y == .lt := by
  rw [compile_after_ofNote, SortBy.keys_reversed]
  refine congrArg Except.ok (funext fun x => ?_)
  rw [compareBy_reversed]
  cases compareBy (sort.keys order) x y <;> rfl

end Filter

namespace Position

/-- The filters for the notes after the position, in this order and in the reversed one, let through
the notes that are greater than `y` by the keys of the listing, and those that are less. A note with
the sorted value and the identifier of `y` passes neither, any other note exactly one of them. -/
def Divides (sort : SortBy) (order : SortOrder) (y : Note) (p : Position) : Prop :=
  ∃ after before : Predicate,
    (Filter.after sort order p).compile = .ok after
    ∧ (Filter.after sort order.reversed p).compile = .ok before
    ∧ ∀ x : Note,
      (after x = true ↔ compareBy (sort.keys order) x y = .gt)
      ∧ (before x = true ↔ compareBy (sort.keys order) x y = .lt)
      ∧ if x.value sort.field = y.value sort.field ∧ x.id = y.id then
          after x = false ∧ before x = false
        else after x = !before x

/-- `Position.ofNote` of a note `Divides` the notes at this note. -/
theorem divides_ofNote (sort : SortBy) (order : SortOrder) (y : Note) :
    Divides sort order y (.ofNote y sort) := by
  refine ⟨_, _, Filter.compile_after_ofNote sort order y, Filter.compile_before_ofNote sort order y,
    fun x => ⟨beq_iff_eq, beq_iff_eq, ?_⟩⟩
  split
  · next hsame =>
    rw [compareBy_keys_eq_eq_iff.2 hsame]
    exact ⟨rfl, rfl⟩
  · next hother =>
    have hne : compareBy (sort.keys order) x y ≠ .eq := mt compareBy_keys_eq_eq_iff.1 hother
    cases hcompare : compareBy (sort.keys order) x y with
    | lt => rfl
    | gt => rfl
    | eq => exact absurd hcompare hne

/-- `Filter.after` the position of a note agrees with `compareBy`, in listings of any sort and
order: the position `Divides` the notes. Next to the filter of a selection it lets through the
selected notes that are greater by the keys, on behalf of any owner and request. Sorted by title,
the cursor of a note is read back as one that carries its position, which `Listing.resolve` knows
without a call of the store, and which `Divides` the notes in the same way. -/
theorem divides_notes :
    (∀ sort order y, Divides sort order y (.ofNote y sort))
    ∧ (∀ (owner : Owner) (r : ListRequest) (order : SortOrder) (y : Note), ∃ p : Predicate,
        ((r.selection owner).filter.and (.after r.sort order (.ofNote y r.sort))).compile = .ok p
        ∧ ∀ x, p x = true ↔ (r.selection owner).accepts x = true
            ∧ compareBy (r.sort.keys order) x y = .gt)
    ∧ ∀ order y, ∃ cursor p,
      Cursor.decode (Cursor.atNote y .title).encode .title = .ok cursor
      ∧ ofCursor? cursor = some p
      ∧ (∀ (s : Selection) (c : Connection), Listing.resolve s .title cursor c = (.ok p, c))
      ∧ Divides .title order y p := by
  refine ⟨divides_ofNote, fun owner r order y => ?_, fun order y => ?_⟩
  · refine ⟨_, Filter.compile_and (r.selection owner).compile_filter
      (Filter.compile_after_ofNote r.sort order y), fun x => ?_⟩
    rw [Bool.and_eq_true, beq_iff_eq]
  · exact ⟨Cursor.atNote y .title, .ofNote y .title, Cursor.decode_encode_atNote y .title, rfl,
      fun s c => rfl, divides_ofNote .title order y⟩

end Position

end NotePager

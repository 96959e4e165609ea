import NotePager.Paging.Position
import NotePager.Query.Predicate
import NotePager.Proofs.Query.Order

/-!
# The order of a listing

`Position.Precedes` is the order of positions, said without the keys and filters that a store is
asked with: by value, then by identifier, both the same way. It is a strict order on all positions.
The two forms in which a listing asks for it agree with it: comparing notes by the keys of the
listing (`compareBy_keys_eq_lt_iff`), and the filter for the notes after a position, whether or not
a note stands there (`Filter.compile_after`).
-/

namespace NotePager

open Std

/-! ## Positions -/

namespace Position

/-- The first position comes before the second when values go up. -/
def Below (p q : Position) : Prop :=
  p.value.compare? q.value = some .lt ∨ p.value = q.value ∧ compare p.id q.id = .lt

/-- The first position comes before the second in a listing of this order. -/
def Precedes : SortOrder → Position → Position → Prop
  | .ascending, p, q => p.Below q
  | .descending, p, q => q.Below p

instance (p q : Position) : Decidable (p.Below q) :=
  inferInstanceAs (Decidable (_ ∨ _ ∧ _))

instance (order : SortOrder) (p q : Position) : Decidable (Precedes order p q) :=
  match order with
  | .ascending => inferInstanceAs (Decidable (p.Below q))
  | .descending => inferInstanceAs (Decidable (q.Below p))

/-- `Below` is irreflexive. -/
theorem Below.irrefl (p : Position) : ¬ p.Below p := by
  have hv : p.value.compare? p.value = some .eq := FieldValue.compare?_eq_iff.2 rfl
  simp [Below, hv]

/-- `Below` is transitive. -/
theorem Below.trans {p q r : Position} (hpq : p.Below q) (hqr : q.Below r) : p.Below r := by
  rcases hpq with hv | ⟨hv, hid⟩ <;> rcases hqr with hw | ⟨hw, hjd⟩
  · exact .inl (FieldValue.compare?_lt_trans hv hw)
  · exact .inl (hw ▸ hv)
  · exact .inl (hv ▸ hw)
  · exact .inr ⟨hv.trans hw, TransCmp.lt_trans hid hjd⟩

/-- `Precedes` is irreflexive. -/
theorem Precedes.irrefl {order : SortOrder} (p : Position) : ¬ Precedes order p p := by
  cases order <;> exact Below.irrefl p

/-- `Precedes` is transitive. -/
theorem Precedes.trans {order : SortOrder} {p q r : Position} (hpq : Precedes order p q)
    (hqr : Precedes order q r) : Precedes order p r := by
  cases order with
  | ascending => exact Below.trans hpq hqr
  | descending => exact Below.trans hqr hpq

/-- `Precedes` is asymmetric. -/
theorem Precedes.asymm {order : SortOrder} {p q : Position} (h : Precedes order p q) :
    ¬ Precedes order q p :=
  fun h' => Precedes.irrefl p (h.trans h')

/-- `Precedes` for `order.reversed` is `Precedes` for `order` with its arguments swapped. -/
theorem precedes_reversed {order : SortOrder} {p q : Position} :
    Precedes order.reversed p q ↔ Precedes order q p := by
  cases order <;> exact Iff.rfl

/-- `Precedes` by comparing: the later value is greater in the direction of `order`, or the values
are equal and the later identifier is greater. -/
theorem precedes_iff {order : SortOrder} {p q : Position} :
    Precedes order p q ↔ (q.value.compare? p.value).any (order.apply · == .gt)
      ∨ q.value = p.value ∧ order.apply (compare q.id p.id) = .gt := by
  cases order with
  | ascending =>
    have hid : compare p.id q.id = .lt ↔ compare q.id p.id = .gt := OrientedCmp.gt_iff_lt.symm
    simp only [Precedes, Below, ← FieldValue.compare?_gt_iff, hid, eq_comm (a := p.value),
      SortOrder.apply]
    cases q.value.compare? p.value <;> simp
  | descending =>
    simp only [Precedes, Below, SortOrder.apply, Ordering.swap_eq_gt]
    cases q.value.compare? p.value with
    | none => simp
    | some o => cases o <;> simp

end Position

open Position

/-! ## The keys of a listing -/

variable {sort : SortBy} {order : SortOrder} {a b : Note}

/-- `compareBy` with `SortBy.keys` is `.gt` exactly when the second note's position precedes the
first's. -/
theorem compareBy_keys_eq_gt_iff :
    compareBy (sort.keys order) a b = .gt ↔ Precedes order (.ofNote b sort) (.ofNote a sort) := by
  obtain ⟨o, ho⟩ := sort.field.exists_compare a b
  have hkey : (SortKey.mk sort.field order).compare a b = order.apply o := by
    simp only [SortKey.compare, ho, Option.getD_some]
  have heq : a.value sort.field = b.value sort.field ↔ order.apply o = .eq := by
    rw [← hkey, SortKey.compare_eq_eq_iff]
  simp only [precedes_iff, ofNote, ho, heq, SortBy.keys, compareBy, hkey, SortKey.compare_id,
    Ordering.then_eq, Option.any_some]
  cases order.apply o <;> simp

/-- `compareBy` with `SortBy.keys` is `.lt` exactly when the first note's position precedes the
second's. -/
theorem compareBy_keys_eq_lt_iff :
    compareBy (sort.keys order) a b = .lt ↔ Precedes order (.ofNote a sort) (.ofNote b sort) := by
  rw [← compareBy_keys_eq_gt_iff]
  exact OrientedCmp.gt_iff_lt.symm

/-- `compareBy` with `SortBy.keys` is `.eq` exactly for notes with the same sorted value and the
same identifier. -/
theorem compareBy_keys_eq_eq_iff :
    compareBy (sort.keys order) a b = .eq
      ↔ a.value sort.field = b.value sort.field ∧ a.id = b.id := by
  have hid : a.value .id = b.value .id ↔ a.id = b.id := by simp [Note.value]
  simp [compareBy_eq_eq_iff, SortBy.keys, hid]

/-- `Precedes` is total on the positions of notes with different identifiers. -/
theorem Position.precedes_or_precedes (sort : SortBy) (order : SortOrder) (h : a.id ≠ b.id) :
    Precedes order (.ofNote a sort) (.ofNote b sort)
      ∨ Precedes order (.ofNote b sort) (.ofNote a sort) := by
  rw [← compareBy_keys_eq_lt_iff, ← compareBy_keys_eq_gt_iff]
  cases hc : compareBy (sort.keys order) a b with
  | lt => exact .inl rfl
  | gt => exact .inr rfl
  | eq => exact absurd (compareBy_keys_eq_eq_iff.1 hc).2 h

/-! ## The notes after a position -/

variable [PatternEngine]

/-- `Filter.beyond` compiles to the comparison of the field with the value. -/
theorem Filter.compile_beyond (order : SortOrder) (field : NoteField) (v : FieldValue) :
    (Filter.beyond order field v).compile
      = .ok fun n => ((n.value field).compare? v).any (order.apply · == .gt) := by
  cases order with
  | ascending => cases v <;> rfl
  | descending =>
    have hless : Comparison.less.holds = (SortOrder.descending.apply · == .gt) := by
      funext o
      cases o <;> rfl
    rw [← hless]
    cases v <;> rfl

/-- `Filter.equal` compiles to equality of the field with the value. -/
theorem Filter.compile_equal (field : NoteField) (v : FieldValue) :
    (Filter.equal field v).compile = .ok fun n => decide (n.value field = v) := by
  have hv (w : FieldValue) : (w.compare? v).any (· == .eq) = decide (w = v) := by
    rw [Bool.eq_iff_iff, decide_eq_true_iff, ← FieldValue.compare?_eq_iff]
    cases w.compare? v <;> simp
  simp only [← hv]
  cases v <;> rfl

/-- `Filter.after` at any position `p` compiles to `Precedes order p` of the note's position. -/
theorem Filter.compile_after (sort : SortBy) (order : SortOrder) (p : Position) :
    (Filter.after sort order p).compile
      = .ok fun n => decide (Precedes order p (.ofNote n sort)) := by
  simp only [Filter.after, Filter.compile, compileParts, compile_beyond, compile_equal]
  refine congrArg Except.ok (funext fun n => ?_)
  have hid : (n.value .id).compare? (.id p.id) = some (compare n.id p.id) := rfl
  rw [Bool.eq_iff_iff, decide_eq_true_iff, precedes_iff]
  simp [hid, ofNote]

end NotePager

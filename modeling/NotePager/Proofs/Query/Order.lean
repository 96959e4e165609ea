import NotePager.Query.Order

/-!
# Comparing notes by keys

`compareBy` is a total preorder on notes for every list of keys, whatever their fields and
directions: the instances below are built the way the definition is, from the kinds of values over
one key to a list of keys. On values of one kind the comparison is `.eq` for equal values only
(`FieldValue.compare?_eq_iff`), so a list of keys finds those notes equal that agree on all its
fields (`compareBy_eq_eq_iff`); one that names the identifier leaves no two notes with different
identifiers equal. Turning every key round turns the outcome round (`compareBy_reversed`).
`compareBy_preorders` puts these laws together.
-/

namespace NotePager

open Std

/-! ## Values -/

instance : TransOrd NoteId := inferInstanceAs (TransCmp (compareOn NoteId.code))

instance : LawfulEqOrd NoteId where
  eq_of_compare {a b} h := by
    have hc : compare a.code b.code = .eq := h
    exact congrArg NoteId.mk (LawfulEqOrd.eq_of_compare hc)

instance : TransOrd Instant :=
  inferInstanceAs (TransCmp (compareLex (compareOn Instant.seconds) (compareOn Instant.nanos)))

instance : LawfulEqOrd Instant where
  eq_of_compare {a b} h := by
    have ⟨hs, hn⟩ : compare a.seconds b.seconds = .eq ∧ compare a.nanos b.nanos = .eq :=
      compareLex_eq_eq.1 h
    obtain ⟨_, _, _⟩ := a
    obtain ⟨_, _, _⟩ := b
    cases LawfulEqOrd.eq_of_compare hs
    cases LawfulEqOrd.eq_of_compare hn
    rfl

/-- `compare?` is `.eq` exactly for equal values. -/
theorem FieldValue.compare?_eq_iff {v w : FieldValue} : v.compare? w = some .eq ↔ v = w := by
  cases v <;> cases w <;> simp [FieldValue.compare?]

/-- `compare?` with its arguments swapped swaps the outcome. -/
theorem FieldValue.compare?_swap (v w : FieldValue) :
    w.compare? v = (v.compare? w).map Ordering.swap := by
  cases v <;> cases w <;> simp only [FieldValue.compare?, Option.map_some, Option.map_none]
  all_goals exact congrArg some OrientedCmp.eq_swap

/-- `compare?` is `.gt` exactly when it is `.lt` the other way round. -/
theorem FieldValue.compare?_gt_iff {v w : FieldValue} :
    v.compare? w = some .gt ↔ w.compare? v = some .lt := by
  rw [FieldValue.compare?_swap v w]
  cases v.compare? w with
  | none => simp
  | some o => cases o <;> simp

/-- `compare?` being `.lt` is transitive. -/
theorem FieldValue.compare?_lt_trans {u v w : FieldValue} (huv : u.compare? v = some .lt)
    (hvw : v.compare? w = some .lt) : u.compare? w = some .lt := by
  cases u <;> cases v <;> cases w <;>
    simp only [FieldValue.compare?, Option.some.injEq, reduceCtorEq] at huv hvw ⊢
  all_goals exact TransCmp.lt_trans huv hvw

/-! ## Keys -/

/-- `SortOrder.apply` keeps `TransCmp`. -/
theorem SortOrder.transCmp_apply (order : SortOrder) (cmp : Note → Note → Ordering)
    [TransCmp cmp] : TransCmp fun a b => order.apply (cmp a b) := by
  cases order with
  | ascending => exact inferInstanceAs (TransCmp cmp)
  | descending =>
    exact {
      eq_swap := congrArg Ordering.swap OrientedCmp.eq_swap
      isLE_trans := fun {a b c} hab hbc => by
        have swap (x y : Note) : cmp x y = (cmp y x).swap := OrientedCmp.eq_swap
        have hba : (cmp b a).isLE := swap b a ▸ hab
        have hcb : (cmp c b).isLE := swap c b ▸ hbc
        have hca : (cmp c a).isLE := TransCmp.isLE_trans hcb hba
        rw [swap c a] at hca
        exact hca }

/-- `compare?` is defined on the values of one field. -/
theorem NoteField.exists_compare (field : NoteField) (a b : Note) :
    ∃ o, (a.value field).compare? (b.value field) = some o := by
  cases field <;> exact ⟨_, rfl⟩

/-- `SortKey.compare` is `.eq` exactly for notes with the same value in the key's field. -/
theorem SortKey.compare_eq_eq_iff {key : SortKey} {a b : Note} :
    key.compare a b = .eq ↔ a.value key.field = b.value key.field := by
  obtain ⟨o, ho⟩ := key.field.exists_compare a b
  rw [← FieldValue.compare?_eq_iff, SortKey.compare, ho, Option.getD_some]
  cases key.order <;> simp [SortOrder.apply]

/-- The same field, the other way. -/
def SortKey.reversed (key : SortKey) : SortKey := { key with order := key.order.reversed }

/-- `SortKey.compare` by the reversed key swaps the outcome. -/
theorem SortKey.compare_reversed (key : SortKey) (a b : Note) :
    key.reversed.compare a b = (key.compare a b).swap :=
  key.order.apply_reversed _

/-- `SortKey.compare` by the identifier compares identifiers. -/
theorem SortKey.compare_id (order : SortOrder) (a b : Note) :
    (SortKey.mk .id order).compare a b = order.apply (Ord.compare a.id b.id) := rfl

/-- One key orders notes totally, up to equality of its field. -/
instance SortKey.transCmp (key : SortKey) : TransCmp key.compare := by
  obtain ⟨field, order⟩ := key
  cases field with
  | id => exact order.transCmp_apply (compareOn Note.id)
  | owner => exact order.transCmp_apply (compareOn fun n : Note => n.owner.name)
  | title => exact order.transCmp_apply (compareOn Note.title)
  | body => exact order.transCmp_apply (compareOn Note.body)
  | color => exact order.transCmp_apply (compareOn Note.color)
  | createdAt => exact order.transCmp_apply (compareOn Note.createdAt)
  | updatedAt => exact order.transCmp_apply (compareOn Note.updatedAt)

/-! ## Lists of keys -/

/-- A list of keys orders notes totally, up to equality of all its fields. -/
instance compareBy_transCmp (keys : List SortKey) : TransCmp (compareBy keys) := by
  induction keys with
  | nil => exact { eq_swap := rfl, isLE_trans := fun _ _ => rfl }
  | cons key keys ih => exact inferInstanceAs (TransCmp (compareLex key.compare (compareBy keys)))

/-- `compareBy` is `.eq` exactly for notes that agree on the field of every key. -/
theorem compareBy_eq_eq_iff {keys : List SortKey} {a b : Note} :
    compareBy keys a b = .eq ↔ ∀ key ∈ keys, a.value key.field = b.value key.field := by
  induction keys with
  | nil => simp [compareBy]
  | cons key keys ih =>
    rw [compareBy, Ordering.then_eq_eq, SortKey.compare_eq_eq_iff, ih, List.forall_mem_cons]

/-- `compareBy` by the reversed keys swaps the outcome. -/
theorem compareBy_reversed (keys : List SortKey) (a b : Note) :
    compareBy (keys.map SortKey.reversed) a b = (compareBy keys a b).swap := by
  induction keys with
  | nil => rfl
  | cons key keys ih =>
    rw [List.map_cons, compareBy, compareBy, SortKey.compare_reversed, ih, Ordering.swap_then]

/-- `compareBy` is total. -/
theorem compareBy_isLE_or (keys : List SortKey) (a b : Note) :
    ((compareBy keys a b).isLE || (compareBy keys b a).isLE) = true := by
  have hswap : compareBy keys b a = (compareBy keys a b).swap := OrientedCmp.eq_swap
  rw [hswap]
  cases compareBy keys a b <;> rfl

/-- `List.mergeSort` by `compareBy` sorts. -/
theorem pairwise_mergeSort_compareBy (keys : List SortKey) (notes : List Note) :
    (notes.mergeSort fun a b => (compareBy keys a b).isLE).Pairwise
      fun a b => (compareBy keys a b).isLE = true :=
  List.pairwise_mergeSort (fun _ _ _ => TransCmp.isLE_trans) (compareBy_isLE_or keys) notes

/-- `compareBy` of any list of keys is a total preorder: it is `.eq` on equal notes, swaps with its
arguments, and not being `.gt` is transitive. Sorting by it leaves no note behind a lesser one.
Reversing every key swaps the outcome, and if some key is the identifier, notes that compare as
`.eq` have the same identifier. -/
theorem compareBy_preorders (keys : List SortKey) :
    (∀ x, compareBy keys x x = .eq)
    ∧ (∀ x y, compareBy keys y x = (compareBy keys x y).swap)
    ∧ (∀ x y z, compareBy keys x y ≠ .gt → compareBy keys y z ≠ .gt → compareBy keys x z ≠ .gt)
    ∧ (∀ notes : List Note, (notes.mergeSort fun x y => (compareBy keys x y).isLE).Pairwise
        fun x y => compareBy keys x y ≠ .gt)
    ∧ (∀ x y, compareBy (keys.map SortKey.reversed) x y = (compareBy keys x y).swap)
    ∧ ∀ key ∈ keys, key.field = .id → ∀ x y, compareBy keys x y = .eq → x.id = y.id := by
  refine ⟨fun x => ReflCmp.compare_self, fun x y => OrientedCmp.eq_swap, fun x y z hxy hyz => ?_,
    fun notes => ?_, compareBy_reversed keys, fun key hkey hfield x y heq => ?_⟩
  · have hxy : (compareBy keys x y).isLE = true := Ordering.isLE_iff_ne_gt.2 hxy
    have hyz : (compareBy keys y z).isLE = true := Ordering.isLE_iff_ne_gt.2 hyz
    exact Ordering.isLE_iff_ne_gt.1 (TransCmp.isLE_trans hxy hyz)
  · exact (pairwise_mergeSort_compareBy keys notes).imp Ordering.isLE_iff_ne_gt.1
  · have hvalue := compareBy_eq_eq_iff.1 heq key hkey
    rw [hfield] at hvalue
    exact FieldValue.id.inj hvalue

/-- A note with this title, color and identifier. -/
def leaflet (title color : String) (code : BitVec 96) : Note where
  id := ⟨code⟩
  owner := ⟨"ann"⟩
  title
  body := ""
  color
  createdAt := .ofSeconds 0
  updatedAt := .ofSeconds 0

/-- The colors downwards, and notes of one color by their identifiers upwards. -/
def byColor : List SortKey := [⟨.color, .descending⟩, ⟨.id, .ascending⟩]

/-- `compareBy_preorders` for the keys `byColor`, which go different ways: transitivity over three
leaflets, and two states of one note that are `.eq` although their titles differ. -/
theorem compareBy_preorders_leaflets :
    compareBy byColor (leaflet "a" "red" 7) (leaflet "a" "blue" 1) ≠ .gt
    ∧ compareBy byColor (leaflet "a" "blue" 1) (leaflet "a" "blue" 2) ≠ .gt
    ∧ compareBy byColor (leaflet "a" "red" 7) (leaflet "a" "blue" 2) ≠ .gt
    ∧ compareBy byColor (leaflet "a" "red" 7) (leaflet "b" "red" 7) = .eq
    ∧ (leaflet "a" "red" 7).id = (leaflet "b" "red" 7).id := by
  obtain ⟨-, -, htrans, -, -, hid⟩ := compareBy_preorders byColor
  have hred : compareBy byColor (leaflet "a" "red" 7) (leaflet "a" "blue" 1) ≠ .gt := by
    decide +kernel
  have hblue : compareBy byColor (leaflet "a" "blue" 1) (leaflet "a" "blue" 2) ≠ .gt := by
    decide +kernel
  have hsame : compareBy byColor (leaflet "a" "red" 7) (leaflet "b" "red" 7) = .eq := by
    decide +kernel
  have hkey : SortKey.mk .id .ascending ∈ byColor := by decide
  exact ⟨hred, hblue, htrans _ _ _ hred hblue, hsame, hid _ hkey rfl _ _ hsame⟩

end NotePager

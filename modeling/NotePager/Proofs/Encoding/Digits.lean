import Mathlib.Data.List.Induction
import NotePager.Proofs.Encoding.Hex

/-!
# Digits and their order

Digits of a fixed width stand for a number and are the only ones of that width that do
(`toDigits_ofDigits`); digits that stand side by side stand for what each row of them does, shifted
by the width of the rows behind it (`ofDigits_append`). Numbers that fit the width order as their
digits do, the first digit counting first (`toDigits_lt_iff`), and so as the characters of these
digits, if greater digits have greater characters (`map_lt_map_iff`).
-/

namespace NotePager.Encoding

/-- `ofDigits` of digits below the base is below `base ^ width`. -/
theorem ofDigits_lt {base : Nat} {ds : List Nat} (hds : ∀ d ∈ ds, d < base) :
    ofDigits base ds < base.pow ds.length := by
  induction ds using List.reverseRecOn with
  | nil => exact Nat.one_pos
  | append_singleton ds d ih =>
    obtain ⟨hfront, hlast⟩ := List.forall_mem_append.1 hds
    have hd : d < base := hlast d (List.mem_singleton_self d)
    rw [ofDigits_append_singleton, List.length_append, List.length_singleton]
    calc ofDigits base ds * base + d < (ofDigits base ds + 1) * base := by rw [Nat.succ_mul]; omega
      _ ≤ base.pow ds.length * base := Nat.mul_le_mul_right base (ih hfront)

/-- `toDigits` reads back `ofDigits`. -/
theorem toDigits_ofDigits {base : Nat} {ds : List Nat} (hds : ∀ d ∈ ds, d < base) :
    toDigits base ds.length (ofDigits base ds) = ds := by
  induction ds using List.reverseRecOn with
  | nil => rfl
  | append_singleton ds d ih =>
    obtain ⟨hfront, hlast⟩ := List.forall_mem_append.1 hds
    have hd : d < base := hlast d (List.mem_singleton_self d)
    have hquotient : (ofDigits base ds * base + d) / base = ofDigits base ds := by
      rw [Nat.add_comm, Nat.add_mul_div_right d _ (Nat.zero_lt_of_lt hd), Nat.div_eq_of_lt hd,
        Nat.zero_add]
    have hremainder : (ofDigits base ds * base + d) % base = d := by
      rw [Nat.mul_add_mod_self_right, Nat.mod_eq_of_lt hd]
    rw [ofDigits_append_singleton, List.length_append, List.length_singleton, toDigits, hquotient,
      hremainder, ih hfront]

/-- `ofDigits` of an append. -/
theorem ofDigits_append (base : Nat) (as bs : List Nat) :
    ofDigits base (as ++ bs) = ofDigits base as * base.pow bs.length + ofDigits base bs := by
  induction bs using List.reverseRecOn with
  | nil => simp [ofDigits]
  | append_singleton bs d ih =>
    have hstep : ofDigits base as * base.pow bs.length * base
        = ofDigits base as * base.pow (bs.length + 1) := Nat.mul_assoc ..
    rw [← List.append_assoc, ofDigits_append_singleton, ofDigits_append_singleton, ih,
      List.length_append, List.length_singleton, Nat.add_mul, hstep, Nat.add_assoc]

/-- `ofDigits` of zeros is 0. -/
theorem ofDigits_zeros (base k : Nat) : ofDigits base (List.replicate k 0) = 0 := by
  induction k with
  | zero => rfl
  | succ k ih => rw [List.replicate_succ', ofDigits_append_singleton, ih, Nat.zero_mul]

/-! ## Order -/

/-- Lexicographic order of appends whose fronts have the same length. -/
theorem append_lt_append_iff {as bs : List Nat} (hlength : as.length = bs.length)
    (xs ys : List Nat) : as ++ xs < bs ++ ys ↔ as < bs ∨ as = bs ∧ xs < ys := by
  induction as generalizing bs with
  | nil =>
    obtain rfl := List.length_eq_zero_iff.1 hlength.symm
    simp
  | cons a as ih =>
    cases bs with
    | nil => cases hlength
    | cons b bs =>
      have hrest := ih (Nat.succ.inj hlength)
      simp only [List.cons_append, List.cons_lt_cons_iff, List.cons_eq_cons, hrest]
      tauto

/-- Order by quotient and then by remainder. -/
theorem lt_iff_div_mod {base : Nat} (hbase : 0 < base) (n m : Nat) :
    n < m ↔ n / base < m / base ∨ n / base = m / base ∧ n % base < m % base := by
  have hdivn := Nat.div_add_mod n base
  have hdivm := Nat.div_add_mod m base
  have hmodn := Nat.mod_lt n hbase
  have hmodm := Nat.mod_lt m hbase
  constructor
  · intro hless
    rcases Nat.lt_or_eq_of_le (Nat.div_le_div_right (Nat.le_of_lt hless)) with hlt | heq
    · exact .inl hlt
    · refine .inr ⟨heq, ?_⟩
      rw [heq] at hdivn
      omega
  · rintro (hless | ⟨hquotient, hless⟩)
    · have hstep := Nat.mul_le_mul_left base (Nat.succ_le_of_lt hless)
      rw [Nat.mul_succ] at hstep
      omega
    · rw [hquotient] at hdivn
      omega

/-- `toDigits` is injective below `base ^ width`. -/
theorem toDigits_eq_iff {base width n m : Nat} (hn : n < base.pow width) (hm : m < base.pow width) :
    toDigits base width n = toDigits base width m ↔ n = m := by
  refine ⟨fun h => ?_, fun h => by rw [h]⟩
  rw [← ofDigits_toDigits base width n hn, h, ofDigits_toDigits base width m hm]

/-- `toDigits` is monotone below `base ^ width`, into the lexicographic order. -/
theorem toDigits_lt_iff {base width n m : Nat} (hn : n < base.pow width) (hm : m < base.pow width) :
    toDigits base width n < toDigits base width m ↔ n < m := by
  induction width generalizing n m with
  | zero =>
    have hn : n = 0 := Nat.lt_one_iff.1 hn
    have hm : m = 0 := Nat.lt_one_iff.1 hm
    simp [toDigits, hn, hm]
  | succ width ih =>
    have hn' : n / base < base.pow width := Nat.div_lt_of_lt_mul (Nat.mul_comm .. ▸ hn)
    have hm' : m / base < base.pow width := Nat.div_lt_of_lt_mul (Nat.mul_comm .. ▸ hm)
    have hlength : (toDigits base width (n / base)).length
        = (toDigits base width (m / base)).length := by rw [length_toDigits, length_toDigits]
    have hbase : 0 < base := Nat.pos_of_ne_zero fun h => by
      subst h
      exact absurd hn (Nat.not_lt.2 (Nat.zero_le n))
    have hlast : [n % base] < [m % base] ↔ n % base < m % base := by
      simp [List.cons_lt_cons_iff]
    rw [toDigits, toDigits, append_lt_append_iff hlength, ih hn' hm', toDigits_eq_iff hn' hm', hlast,
      ← lt_iff_div_mod hbase]

/-- Mapping a function that is strictly monotone below `bound` keeps the lexicographic order. -/
theorem map_lt_map_iff {α : Type} [LT α] {f : Nat → α} {bound : Nat} {as bs : List Nat}
    (hf : ∀ a < bound, ∀ b < bound, (f a < f b ↔ a < b) ∧ (f a = f b ↔ a = b))
    (has : ∀ a ∈ as, a < bound) (hbs : ∀ b ∈ bs, b < bound) :
    as.map f < bs.map f ↔ as < bs := by
  induction as generalizing bs with
  | nil => cases bs <;> simp
  | cons a as ih =>
    cases bs with
    | nil => simp
    | cons b bs =>
      obtain ⟨ha, has⟩ := List.forall_mem_cons.1 has
      obtain ⟨hb, hbs⟩ := List.forall_mem_cons.1 hbs
      obtain ⟨hlt, heq⟩ := hf a ha b hb
      rw [List.map_cons, List.map_cons, List.cons_lt_cons_iff, List.cons_lt_cons_iff, hlt, heq,
        ih has hbs]

end NotePager.Encoding

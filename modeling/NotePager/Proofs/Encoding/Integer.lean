import NotePager.Encoding.Integer

/-!
# What is read as an integer

A text spells an integer (`SpellsInteger`) when it consists of ASCII digits, at least one, and of
one sign at most in front of them. It is read as that integer if the integer is in range, and
otherwise refused for being too large or too small: reading stops at the first digit that leaves the
range, and more digits do not lead back (`readSigned_of_spells`). Nothing else is read
(`readSigned_eq_ok_iff`).
-/

namespace NotePager.Encoding

/-- The characters are ASCII digits, and there is at least one. -/
structure IsNumeral (cs : List Char) : Prop where
  ne_nil : cs ≠ []
  digits : ∀ c ∈ cs, c.isDigit = true

/-- The number that decimal digits stand for. -/
def numeralValue (cs : List Char) : Nat := ofDigits 10 (cs.map fun c => c.toNat - 48)

/-- The characters are digits, with at most one sign in front, that stand for the integer. -/
inductive SpellsInteger : List Char → Int → Prop
  | bare {cs : List Char} (h : IsNumeral cs) : SpellsInteger cs (numeralValue cs)
  | plus {cs : List Char} (h : IsNumeral cs) : SpellsInteger ('+' :: cs) (numeralValue cs)
  | minus {cs : List Char} (h : IsNumeral cs) : SpellsInteger ('-' :: cs) (-numeralValue cs)

variable {limit : Nat} {beyond : IntegerError} {cs : List Char}

/-- `decimalDigit?` reads the ASCII digits. -/
theorem decimalDigit?_eq (c : Char) :
    decimalDigit? c = if c.isDigit = true then some (c.toNat - 48) else none := by
  have hrange : c.isDigit = true ↔ 48 ≤ c.toNat ∧ c.toNat ≤ 57 := by
    rw [Char.isDigit, Bool.and_eq_true, decide_eq_true_iff, decide_eq_true_iff]
    exact Iff.rfl
  simp only [decimalDigit?, hrange]

/-! ## Magnitudes -/

/-- The number that digits stand for behind a number that is read already. -/
def valueOnto (n : Nat) (cs : List Char) : Nat := cs.foldl (fun n c => n * 10 + (c.toNat - 48)) n

/-- `valueOnto` is at least the number it starts from. -/
theorem le_valueOnto (n : Nat) (cs : List Char) : n ≤ valueOnto n cs := by
  induction cs generalizing n with
  | nil => exact Nat.le_refl n
  | cons c cs ih =>
    calc n ≤ n * 10 + (c.toNat - 48) := by omega
      _ ≤ valueOnto (n * 10 + (c.toNat - 48)) cs := ih _

/-- `readDigits` of digits is `valueOnto` if that is within the limit, and fails with `beyond`
otherwise. -/
theorem readDigits_of_digits {n : Nat} (hn : n ≤ limit) (hcs : ∀ c ∈ cs, c.isDigit = true) :
    readDigits limit beyond n cs
      = if valueOnto n cs ≤ limit then .ok (valueOnto n cs) else .error beyond := by
  induction cs generalizing n with
  | nil => exact (if_pos hn).symm
  | cons c cs ih =>
    obtain ⟨hc, hrest⟩ := List.forall_mem_cons.1 hcs
    rw [readDigits, decimalDigit?_eq, if_pos hc]
    simp only
    by_cases hnext : n * 10 + (c.toNat - 48) ≤ limit
    · rw [if_pos hnext, ih hnext hrest]
      rfl
    · -- The number only grows from here.
      have hgrows := le_valueOnto (n * 10 + (c.toNat - 48)) cs
      have hbeyond : ¬ valueOnto n (c :: cs) ≤ limit := by
        rw [valueOnto, List.foldl_cons]
        exact fun h => hnext (Nat.le_trans hgrows h)
      rw [if_neg hnext, if_neg hbeyond]

/-- `readDigits` succeeds on digits only. -/
theorem isDigit_of_readDigits {n m : Nat} (h : readDigits limit beyond n cs = .ok m) :
    ∀ c ∈ cs, c.isDigit = true := by
  induction cs generalizing n with
  | nil => simp
  | cons c cs ih =>
    rw [readDigits, decimalDigit?_eq] at h
    by_cases hc : c.isDigit = true
    · simp only [if_pos hc] at h
      split at h
      · exact List.forall_mem_cons.2 ⟨hc, ih h⟩
      · cases h
    · simp only [if_neg hc, reduceCtorEq] at h

/-- `numeralValue` is `valueOnto` from 0. -/
theorem numeralValue_eq (cs : List Char) : numeralValue cs = valueOnto 0 cs := by
  rw [numeralValue, ofDigits, List.foldl_map, valueOnto]

/-- `readMagnitude` of a numeral is `numeralValue` if that is within the limit, and fails with
`beyond` otherwise. -/
theorem readMagnitude_of_isNumeral (h : IsNumeral cs) :
    readMagnitude limit beyond cs
      = if numeralValue cs ≤ limit then .ok (numeralValue cs) else .error beyond := by
  rw [readMagnitude, readDigits_of_digits (Nat.zero_le limit) h.digits, numeralValue_eq]
  exact h.ne_nil

/-- `readMagnitude` succeeds on numerals only. -/
theorem isNumeral_of_readMagnitude {n : Nat} (h : readMagnitude limit beyond cs = .ok n) :
    IsNumeral cs := by
  cases cs with
  | nil => cases h
  | cons c cs => exact ⟨List.cons_ne_nil c cs, isDigit_of_readDigits h⟩

/-- `readMagnitude` succeeds exactly on numerals within the limit, with `numeralValue`. -/
theorem readMagnitude_eq_ok_iff {n : Nat} :
    readMagnitude limit beyond cs = .ok n ↔ IsNumeral cs ∧ n = numeralValue cs ∧ n ≤ limit := by
  constructor
  · intro h
    have hnumeral := isNumeral_of_readMagnitude h
    rw [readMagnitude_of_isNumeral hnumeral] at h
    split at h
    · rename_i hlimit
      cases h
      exact ⟨hnumeral, rfl, hlimit⟩
    · cases h
  · rintro ⟨hnumeral, rfl, hlimit⟩
    rw [readMagnitude_of_isNumeral hnumeral, if_pos hlimit]

/-! ## Signs -/

/-- A numeral starts with no sign. -/
theorem IsNumeral.not_sign {c : Char} (h : IsNumeral (c :: cs)) : c ≠ '+' ∧ c ≠ '-' := by
  have hdigit := h.digits c List.mem_cons_self
  constructor
  · rintro rfl
    exact absurd hdigit (by decide)
  · rintro rfl
    exact absurd hdigit (by decide)

/-- `readSigned` of a numeral is `readMagnitude`. -/
theorem readSigned_of_isNumeral {size : Nat} (h : IsNumeral cs) :
    readSigned size cs
      = (readMagnitude (size / 2 - 1) .tooLarge cs).map fun n => (n : Int) := by
  cases cs with
  | nil => exact absurd rfl h.ne_nil
  | cons c cs =>
    rw [readSigned]
    · exact fun _ heq => h.not_sign.2 (List.cons.inj heq).1
    · exact fun _ heq => h.not_sign.1 (List.cons.inj heq).1

/-- `readSigned` of a text that `SpellsInteger` is the integer if that is in range, and fails with
`tooSmall` or `tooLarge` otherwise. -/
theorem readSigned_of_spells {size : Nat} (hsize : 0 < size / 2) {n : Int}
    (h : SpellsInteger cs n) :
    readSigned size cs = if n < -(size / 2 : Nat) then .error .tooSmall
      else if (size / 2 : Nat) ≤ n then .error .tooLarge else .ok n := by
  have hnonneg (cs : List Char) : ¬ (numeralValue cs : Int) < -(size / 2 : Nat) := by omega
  cases h with
  | bare h =>
    rw [readSigned_of_isNumeral h, readMagnitude_of_isNumeral h, if_neg (hnonneg cs)]
    by_cases hlimit : numeralValue cs ≤ size / 2 - 1
    · rw [if_pos hlimit, if_neg (by omega)]
      rfl
    · rw [if_neg hlimit, if_pos (by omega)]
      rfl
  | @plus cs h =>
    rw [readSigned, readMagnitude_of_isNumeral h, if_neg (hnonneg cs)]
    by_cases hlimit : numeralValue cs ≤ size / 2 - 1
    · rw [if_pos hlimit, if_neg (by omega)]
      rfl
    · rw [if_neg hlimit, if_pos (by omega)]
      rfl
  | @minus cs h =>
    rw [readSigned, readMagnitude_of_isNumeral h]
    by_cases hlimit : numeralValue cs ≤ size / 2
    · rw [if_pos hlimit, if_neg (by omega), if_neg (by omega)]
      rfl
    · rw [if_neg hlimit, if_pos (by omega)]
      rfl

/-- `readMagnitude`, mapped by `f`, succeeds on numerals only, with `f` of `numeralValue`. -/
theorem isNumeral_of_map {f : Int → Int} {n : Int}
    (h : (readMagnitude limit beyond cs >>= fun m => pure (m : Int)).map f = .ok n) :
    IsNumeral cs ∧ f (numeralValue cs) = n := by
  cases hread : readMagnitude limit beyond cs with
  | error e =>
    rw [hread] at h
    cases h
  | ok m =>
    rw [hread] at h
    cases h
    obtain ⟨hnumeral, rfl, -⟩ := readMagnitude_eq_ok_iff.1 hread
    exact ⟨hnumeral, rfl⟩

/-- `readSigned` succeeds with what the text `SpellsInteger` only. -/
theorem spells_of_readSigned {size : Nat} {n : Int} (h : readSigned size cs = .ok n) :
    SpellsInteger cs n := by
  rw [readSigned.eq_def] at h
  split at h
  · obtain ⟨hnumeral, rfl⟩ := isNumeral_of_map h
    exact .minus hnumeral
  · obtain ⟨hnumeral, rfl⟩ := isNumeral_of_map h
    exact .plus hnumeral
  · obtain ⟨hnumeral, rfl⟩ := isNumeral_of_map h
    exact .bare hnumeral

/-- `readSigned` succeeds exactly on texts that spell an integer in range, with that integer. -/
theorem readSigned_eq_ok_iff {size : Nat} (hsize : 0 < size / 2) {n : Int} :
    readSigned size cs = .ok n
      ↔ SpellsInteger cs n ∧ -(size / 2 : Nat) ≤ n ∧ n < (size / 2 : Nat) := by
  constructor
  · intro h
    have hspells := spells_of_readSigned h
    rw [readSigned_of_spells hsize hspells] at h
    split at h
    · cases h
    · split at h
      · cases h
      · exact ⟨hspells, by omega, by omega⟩
  · rintro ⟨hspells, hlow, hhigh⟩
    rw [readSigned_of_spells hsize hspells, if_neg (by omega), if_neg (by omega)]

end NotePager.Encoding

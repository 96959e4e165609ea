/-!
# Numbers as digits

Fixed width digits, most significant first, in any base, and the number that digits stand for.
`ofDigits_toDigits` reads back what was written; digits that do not fit the width are lost from the
front.
-/

namespace NotePager.Encoding

/-- The last `width` digits of `n` in the base. -/
def toDigits (base : Nat) : Nat → Nat → List Nat
  | 0, _ => []
  | width + 1, n => toDigits base width (n / base) ++ [n % base]

/-- The number that the digits stand for in the base. -/
def ofDigits (base : Nat) (digits : List Nat) : Nat :=
  digits.foldl (fun n d => n * base + d) 0

@[simp] theorem length_toDigits (base width n : Nat) : (toDigits base width n).length = width := by
  induction width generalizing n with
  | zero => rfl
  | succ width ih => simp [toDigits, ih]

theorem ofDigits_append_singleton (base : Nat) (ds : List Nat) (d : Nat) :
    ofDigits base (ds ++ [d]) = ofDigits base ds * base + d := by
  simp [ofDigits]

theorem ofDigits_toDigits (base width n : Nat) (h : n < base.pow width) :
    ofDigits base (toDigits base width n) = n := by
  induction width generalizing n with
  | zero => simp at h; subst h; rfl
  | succ width ih =>
    have hlt : n / base < base.pow width := Nat.div_lt_of_lt_mul (Nat.mul_comm .. ▸ h)
    rw [toDigits, ofDigits_append_singleton, ih _ hlt, Nat.mul_comm, Nat.div_add_mod]

/-- The decimal digit, as a character. -/
def decimalChar (d : Nat) : Char := Char.ofNat (48 + d)

/-- The value of a decimal digit; only the ten ASCII digits have one. -/
def decimalDigit? (c : Char) : Option Nat :=
  if 48 ≤ c.toNat ∧ c.toNat ≤ 57 then some (c.toNat - 48) else none

/-- The number with exactly `width` decimal digits. -/
def padded (width n : Nat) : List Char := (toDigits 10 width n).map decimalChar

end NotePager.Encoding

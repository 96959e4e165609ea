/-!
# Ranges of characters

A character property is a list of closed ranges of code points. `covers` looks a character up in
such a list; the property modules beside this one each hold one list.
-/

namespace NotePager.Text

/-- The character lies in one of the closed ranges of code points. -/
def covers (ranges : List (Nat × Nat)) (c : Char) : Bool :=
  ranges.any fun r => decide (r.1 ≤ c.toNat) && decide (c.toNat ≤ r.2)

theorem covers_eq_true_iff {ranges : List (Nat × Nat)} {c : Char} :
    covers ranges c = true ↔ ∃ r ∈ ranges, r.1 ≤ c.toNat ∧ c.toNat ≤ r.2 := by
  simp [covers, List.any_eq_true]

end NotePager.Text

import NotePager.Proofs.Note.Identifier

/-!
# Identifiers made from parts

An identifier is made from a second and a counter: the four bytes of the second stand in front, the
last three bytes of the counter at the end, and zeros between them (`NoteId.bytes_fromParts`). Bytes
count from the front, so such identifiers order by the second and then by what is left of the
counter (`NoteId.compare_fromParts_iff`). The first byte of the counter is lost: within a second,
identifiers order as their counters among counters that have this byte in common
(`NoteId.fromParts_exact`), and counters that differ in nothing else make one identifier
(`NoteId.fromParts_eq_iff`).
-/

namespace NotePager

open Encoding

namespace NoteId

/-! ## Layout -/

/-- Four bytes of the second, five zeros, and the last three bytes of the counter. -/
def partBytes (seconds counter : UInt32) : List Nat :=
  toDigits 256 4 seconds.toNat
    ++ (List.replicate 5 0 ++ toDigits 256 3 (counter.toNat % 0x1000000))

/-- A second fits four bytes. -/
theorem seconds_fit (seconds : UInt32) : seconds.toNat < Nat.pow 256 4 :=
  seconds.toNat_lt

/-- A counter modulo `0x1000000` fits three bytes. -/
theorem counter_fits (counter : UInt32) : counter.toNat % 0x1000000 < Nat.pow 256 3 :=
  Nat.mod_lt _ (by decide)

/-- `partBytes` are below 256. -/
theorem partBytes_lt (seconds counter : UInt32) : ∀ b ∈ partBytes seconds counter, b < 256 := by
  intro b hb
  rcases List.mem_append.1 hb with hb | hb
  · exact toDigits_lt (by decide) _ _ b hb
  · rcases List.mem_append.1 hb with hb | hb
    · rw [List.eq_of_mem_replicate hb]
      decide
    · exact toDigits_lt (by decide) _ _ b hb

/-- The number that `partBytes` spell. -/
theorem ofDigits_partBytes (seconds counter : UInt32) :
    Encoding.ofDigits 256 (partBytes seconds counter)
      = seconds.toNat * 0x10000000000000000 + counter.toNat % 0x1000000 := by
  rw [partBytes, ofDigits_append, ofDigits_append, ofDigits_zeros,
    ofDigits_toDigits _ _ _ (seconds_fit seconds),
    ofDigits_toDigits _ _ _ (counter_fits counter)]
  simp

/-- `bytes` of `fromParts` are `partBytes`. -/
theorem bytes_fromParts (seconds counter : UInt32) :
    (fromParts seconds counter).bytes = partBytes seconds counter := by
  have hlength : (partBytes seconds counter).length = size := by simp [partBytes, size]
  have hfits : seconds.toNat * 0x10000000000000000 + counter.toNat % 0x1000000 < 2 ^ 96 := by
    have hseconds := seconds.toNat_lt
    omega
  have hback := toDigits_ofDigits (partBytes_lt seconds counter)
  rwa [hlength, ofDigits_partBytes, ← Nat.mod_eq_of_lt hfits, ← BitVec.toNat_ofNat] at hback

/-! ## Order -/

/-- `bytes` is injective. -/
theorem bytes_eq_iff {x y : NoteId} : x.bytes = y.bytes ↔ x = y := by
  have hnumber : x.bytes = y.bytes ↔ x.code.toNat = y.code.toNat :=
    toDigits_eq_iff x.code.isLt y.code.isLt
  rw [hnumber]
  exact ⟨fun h => congrArg NoteId.mk (BitVec.eq_of_toNat_eq h), fun h => h ▸ rfl⟩

section

variable (s₁ c₁ s₂ c₂ : UInt32)

/-- `fromParts` orders by the second and then by the last three bytes of the counter. -/
theorem compare_fromParts_iff :
    compare (fromParts s₁ c₁) (fromParts s₂ c₂) = .lt
      ↔ s₁ < s₂ ∨ s₁ = s₂ ∧ c₁ % 0x1000000 < c₂ % 0x1000000 := by
  rw [compare_eq_lt_iff, ← bytes_lt_iff, bytes_fromParts, bytes_fromParts, partBytes, partBytes,
    append_lt_append_iff (by simp), append_lt_append_iff rfl,
    toDigits_lt_iff (seconds_fit s₁) (seconds_fit s₂),
    toDigits_eq_iff (seconds_fit s₁) (seconds_fit s₂),
    toDigits_lt_iff (counter_fits c₁) (counter_fits c₂)]
  simp [UInt32.lt_iff_toNat_lt, UInt32.toNat_inj]

/-- `fromParts` is determined by the second and the last three bytes of the counter. -/
theorem fromParts_eq_iff :
    fromParts s₁ c₁ = fromParts s₂ c₂ ↔ s₁ = s₂ ∧ c₁ % 0x1000000 = c₂ % 0x1000000 := by
  have hcounters : c₁.toNat % 0x1000000 = c₂.toNat % 0x1000000
      ↔ c₁ % 0x1000000 = c₂ % 0x1000000 := by
    rw [← UInt32.toNat_inj, UInt32.toNat_mod, UInt32.toNat_mod]
    rfl
  rw [← bytes_eq_iff, bytes_fromParts, bytes_fromParts, ← UInt32.toNat_inj, ← hcounters,
    ← toDigits_eq_iff (seconds_fit s₁) (seconds_fit s₂),
    ← toDigits_eq_iff (counter_fits c₁) (counter_fits c₂)]
  constructor
  · intro h
    obtain ⟨hseconds, hrest⟩ := List.append_inj h (by simp)
    exact ⟨hseconds, List.append_cancel_left hrest⟩
  · rintro ⟨hseconds, hrest⟩
    rw [partBytes, partBytes, hseconds, hrest]

/-- Counters with the same first byte order as their last three bytes. -/
theorem mod_lt_mod_iff {c₁ c₂ : UInt32} (h : c₁ / 0x1000000 = c₂ / 0x1000000) :
    (c₁ % 0x1000000 < c₂ % 0x1000000 ↔ c₁ < c₂) ∧ (c₁ % 0x1000000 = c₂ % 0x1000000 ↔ c₁ = c₂) := by
  have hfirst : c₁.toNat / 0x1000000 = c₂.toNat / 0x1000000 := congrArg UInt32.toNat h
  have hmod (c : UInt32) : (c % 0x1000000).toNat = c.toNat % 0x1000000 := rfl
  simp only [UInt32.lt_iff_toNat_lt, ← UInt32.toNat_inj, hmod]
  constructor <;> omega

/-- `fromParts` orders by the second and then by the last three bytes of the counter, and is
determined by them. For different seconds, or counters with the same first byte, as all counters of
three bytes have, this is the order of the pairs of second and counter, and `fromParts` is
injective. -/
theorem fromParts_exact :
    (compare (fromParts s₁ c₁) (fromParts s₂ c₂) = .lt
      ↔ s₁ < s₂ ∨ s₁ = s₂ ∧ c₁ % 0x1000000 < c₂ % 0x1000000)
    ∧ (fromParts s₁ c₁ = fromParts s₂ c₂ ↔ s₁ = s₂ ∧ c₁ % 0x1000000 = c₂ % 0x1000000)
    ∧ (s₁ ≠ s₂ ∨ c₁ / 0x1000000 = c₂ / 0x1000000 →
      (compare (fromParts s₁ c₁) (fromParts s₂ c₂) = .lt ↔ s₁ < s₂ ∨ s₁ = s₂ ∧ c₁ < c₂)
      ∧ (fromParts s₁ c₁ = fromParts s₂ c₂ → s₁ = s₂ ∧ c₁ = c₂)) := by
  have hlt := compare_fromParts_iff s₁ c₁ s₂ c₂
  have heq := fromParts_eq_iff s₁ c₁ s₂ c₂
  refine ⟨hlt, heq, ?_⟩
  rintro (hseconds | hfirst)
  · simp [hlt, heq, hseconds]
  · obtain ⟨hless, hsame⟩ := mod_lt_mod_iff hfirst
    rw [hlt, heq, hless, hsame]
    exact ⟨Iff.rfl, id⟩

end

/-- `fromParts_exact` for two counters of one second, the second of which is the greatest of three
bytes, and for the next second with a counter of four bytes. -/
theorem fromParts_exact_hundred :
    compare (fromParts 100 5) (fromParts 100 0xffffff) = .lt
    ∧ fromParts 100 5 ≠ fromParts 100 0xffffff
    ∧ compare (fromParts 100 0xffffff) (fromParts 101 0xff000000) = .lt := by
  obtain ⟨hless, hsame⟩ := (fromParts_exact 100 5 100 0xffffff).2.2 (.inr (by decide))
  obtain ⟨hnext, -⟩ := (fromParts_exact 100 0xffffff 101 0xff000000).2.2 (.inl (by decide))
  exact ⟨hless.2 (by decide), fun h => absurd (hsame h).2 (by decide), hnext.2 (by decide)⟩

/-- `fromParts` does not order by second and counter for all counters: one of four bytes begins
again at zero. -/
theorem not_fromParts_ordered :
    ¬ ∀ s₁ c₁ s₂ c₂ : UInt32,
      (compare (fromParts s₁ c₁) (fromParts s₂ c₂) = .lt ↔ s₁ < s₂ ∨ s₁ = s₂ ∧ c₁ < c₂)
      ∧ (fromParts s₁ c₁ = fromParts s₂ c₂ → s₁ = s₂ ∧ c₁ = c₂) := by
  intro h
  have hsame : fromParts 0 0 = fromParts 0 0x1000000 := by decide
  exact absurd ((h 0 0 0 0x1000000).2 hsame).2 (by decide)

end NoteId

end NotePager

import Mathlib.Data.String.Basic
import NotePager.Proofs.Encoding.Digits
import NotePager.Proofs.Json.Text

/-!
# Identifiers and their texts

A text is read as an identifier exactly if it consists of 24 hexadecimal digits, in either case; the
identifier is then written as that text in lower case. Any other text is refused for one of two
reasons: it is not hexadecimal, or it spells another number of bytes (`NoteId.ofHex_exact`).

Identifiers order as their bytes do, the first one counting first, and as their written forms
(`NoteId.compare_eq_lt_iff`, `NoteId.toHex_lt_iff`): both are digits of one number, in two bases.
-/

namespace NotePager

open Encoding Text

/-- The character is one of the hexadecimal digits, in either case. -/
def IsHexDigit (c : Char) : Prop := c ∈ "0123456789abcdefABCDEF".toList

instance : DecidablePred IsHexDigit := fun c =>
  inferInstanceAs (Decidable (c ∈ "0123456789abcdefABCDEF".toList))

namespace Encoding.Hex

variable {b : UInt8} {bytes : List UInt8} {cs : List Char}

/-- `digit?` reads the bytes of `IsHexDigit` characters. -/
theorem isSome_digit?_iff : (digit? b).isSome = true ↔ IsHexDigit (Char.ofNat b.toNat) := by
  have htable : ∀ n < 256,
      (digit? (UInt8.ofNat n)).isSome = decide (IsHexDigit (Char.ofNat n)) := by
    decide +kernel
  have hb := htable b.toNat b.toNat_lt
  rw [UInt8.ofNat_toNat] at hb
  rw [hb, decide_eq_true_iff]

/-- `digit?` is below 16. -/
theorem digit?_lt {d : Nat} (h : digit? b = some d) : d < 16 := by
  simp only [digit?] at h
  split at h
  · cases h
    omega
  · split at h
    · cases h
      omega
    · split at h
      · cases h
        omega
      · cases h

/-- An `IsHexDigit` character is one byte, whose `digitChar` is the character in lower case. -/
theorem digit?_of_isHexDigit {c : Char} (hc : IsHexDigit c) :
    ∃ b d, String.utf8EncodeChar c = [b] ∧ digit? b = some d ∧ digitChar d = c.toLower := by
  have htable : "0123456789abcdefABCDEF".toList.all (fun c =>
      decide (String.utf8EncodeChar c = [UInt8.ofNat c.toNat]
        ∧ (digit? (UInt8.ofNat c.toNat)).map digitChar = some c.toLower)) = true := by
    decide +kernel
  obtain ⟨hbyte, hvalue⟩ := of_decide_eq_true (List.all_eq_true.1 htable c hc)
  obtain ⟨d, hd, hlower⟩ := Option.map_eq_some_iff.1 hvalue
  exact ⟨_, d, hbyte, hd, hlower⟩

/-- A character is `IsHexDigit` when `digit?` reads all its bytes. -/
theorem isHexDigit_iff_bytes {c : Char} :
    IsHexDigit c ↔ ∀ b ∈ String.utf8EncodeChar c, (digit? b).isSome = true := by
  constructor
  · intro hc
    obtain ⟨b, d, hbyte, hd, -⟩ := digit?_of_isHexDigit hc
    rw [hbyte, List.forall_mem_singleton, hd]
    rfl
  · intro hbytes
    have hascii := toNat_lt_of_isAlphanum (isAlphanum_of_bytes hbytes).1
    have hbyte := Json.utf8EncodeChar_ofNat c.toNat hascii
    rw [Char.ofNat_toNat] at hbyte
    have hdigit := isSome_digit?_iff.1 (hbytes (UInt8.ofNat c.toNat) (by rw [hbyte]; simp))
    rwa [UInt8.toNat_ofNat_of_lt' (Nat.lt_trans hascii (by decide)), Char.ofNat_toNat] at hdigit

/-- `isHexDigit_iff_bytes` along a list. -/
theorem forall_isHexDigit_iff :
    (∀ c ∈ cs, IsHexDigit c)
      ↔ ∀ b ∈ cs.flatMap String.utf8EncodeChar, (digit? b).isSome = true := by
  simp only [isHexDigit_iff_bytes, List.mem_flatMap]
  exact ⟨fun h b ⟨c, hc, hb⟩ => h c hc b hb, fun h c hc b hb => h b ⟨c, hc, hb⟩⟩

/-- `digitChar` of the digits of `IsHexDigit` characters is the characters in lower case. -/
theorem digitChars_of_forall (hcs : ∀ c ∈ cs, IsHexDigit c) :
    ((cs.flatMap String.utf8EncodeChar).filterMap digit?).map digitChar = cs.map Char.toLower := by
  induction cs with
  | nil => rfl
  | cons c cs ih =>
    obtain ⟨hc, hrest⟩ := List.forall_mem_cons.1 hcs
    obtain ⟨b, d, hbyte, hd, hlower⟩ := digit?_of_isHexDigit hc
    rw [List.flatMap_cons, hbyte, List.singleton_append, List.filterMap_cons, hd, List.map_cons,
      hlower, ih hrest, List.map_cons]

/-- `IsHexDigit` characters are one byte each. -/
theorem length_bytes_of_forall (hcs : ∀ c ∈ cs, IsHexDigit c) :
    (cs.flatMap String.utf8EncodeChar).length = cs.length := by
  have hsome := forall_isHexDigit_iff.1 hcs
  rw [← List.filterMap_length_eq_length.2 hsome, ← List.length_map digitChar,
    digitChars_of_forall hcs, List.length_map]

/-- `Hex.digits` succeeds exactly on an even number of bytes that `digit?` reads, with what it
reads. -/
theorem digits_eq_ok_iff {ds : List Nat} :
    digits bytes = .ok ds ↔ bytes.length % 2 = 0 ∧ (∀ b ∈ bytes, (digit? b).isSome = true)
      ∧ ds = bytes.filterMap digit? := by
  constructor
  · intro h
    have hsome := isSome_of_digits h
    rw [digits] at h
    split at h
    · cases h
    · rename_i heven
      have heven : ¬ bytes.length % 2 = 1 := by simpa using heven
      split at h
      · cases h
      · cases h
        exact ⟨by omega, hsome, rfl⟩
  · rintro ⟨heven, hsome, rfl⟩
    have hgood : bytes.zipIdx.find? (fun p => (digit? p.1).isNone) = none := by
      rw [List.find?_eq_none]
      intro p hp
      simpa [Option.isSome_iff_ne_none] using hsome p.1 (List.fst_mem_of_mem_zipIdx hp)
    rw [digits, hgood]
    simp [heven]

/-- `digitChar` is strictly monotone below 16. -/
theorem digitChar_lt_iff :
    ∀ a < 16, ∀ b < 16,
      (digitChar a < digitChar b ↔ a < b) ∧ (digitChar a = digitChar b ↔ a = b) := by
  decide

end Encoding.Hex

namespace NoteId

open Hex

variable {s : String} {id : NoteId}

/-! ## Reading -/

/-- `Hex.digits` succeeds exactly on texts of an even number of `IsHexDigit` characters. -/
theorem exists_digits_iff :
    (∃ ds, digits (utf8 s) = .ok ds) ↔ s.length % 2 = 0 ∧ ∀ c ∈ s.toList, IsHexDigit c := by
  rw [forall_isHexDigit_iff, ← utf8_eq_flatMap]
  constructor
  · rintro ⟨ds, hds⟩
    obtain ⟨heven, hsome, -⟩ := digits_eq_ok_iff.1 hds
    rw [(isAlphanum_of_digits hds).2]
    exact ⟨heven, hsome⟩
  · rintro ⟨heven, hsome⟩
    have hlength := length_bytes_of_forall
      (forall_isHexDigit_iff.2 (utf8_eq_flatMap s ▸ hsome))
    rw [← utf8_eq_flatMap, String.length_toList] at hlength
    exact ⟨_, digits_eq_ok_iff.2 ⟨hlength ▸ heven, hsome, rfl⟩⟩

/-- `ofHex` of a text that `Hex.digits` reads, by its length. -/
theorem ofHex_of_digits {ds : List Nat} (h : digits (utf8 s) = .ok ds) :
    ofHex s = if s.length = 2 * size then .ok (ofDigits ds)
      else .error (.length (s.length / 2)) := by
  rw [ofHex, h]
  simp only [length_of_digits h, (isAlphanum_of_digits h).2]

/-- `ofHex` fails with `hex`, or the text is an even number of `IsHexDigit` characters and its
length decides. -/
theorem ofHex_cases (s : String) :
    (¬ (s.length % 2 = 0 ∧ ∀ c ∈ s.toList, IsHexDigit c)
        ∧ ∃ cause, ofHex s = .error (.hex cause))
      ∨ (s.length % 2 = 0 ∧ ∀ c ∈ s.toList, IsHexDigit c)
        ∧ ∃ id, ofHex s = if s.length = 2 * size then .ok id
          else .error (.length (s.length / 2)) := by
  rw [← exists_digits_iff]
  cases hds : digits (utf8 s) with
  | error cause => exact .inl ⟨by simp, cause, by rw [ofHex, hds]⟩
  | ok ds => exact .inr ⟨⟨ds, rfl⟩, ofDigits ds, ofHex_of_digits hds⟩

/-- `ofHex` succeeds exactly on texts of `2 * size` hexadecimal digits. -/
theorem ofHex_ok_iff :
    (∃ id, ofHex s = .ok id) ↔ s.length = 2 * size ∧ ∀ c ∈ s.toList, IsHexDigit c := by
  rcases ofHex_cases s with ⟨hnot, cause, hs⟩ | ⟨hpairs, id, hs⟩
  · simp only [hs, reduceCtorEq, exists_false, false_iff]
    exact fun h => hnot ⟨by omega, h.2⟩
  · rw [hs]
    by_cases hlength : s.length = 2 * size
    · rw [if_pos hlength]
      exact ⟨fun _ => ⟨hlength, hpairs.2⟩, fun _ => ⟨id, rfl⟩⟩
    · simp [hlength]

/-- `ofHex` fails with `hex` exactly on texts with an odd number of bytes or a byte that is no
digit. -/
theorem ofHex_hex_iff :
    (∃ cause, ofHex s = .error (.hex cause))
      ↔ (utf8 s).length % 2 = 1 ∨ ∃ b ∈ utf8 s, ¬ IsHexDigit (Char.ofNat b.toNat) := by
  cases hds : digits (utf8 s) with
  | error cause =>
    have hnot : ¬ ((utf8 s).length % 2 = 0 ∧ ∀ b ∈ utf8 s, (digit? b).isSome = true) := fun h =>
      nomatch hds.symm.trans (digits_eq_ok_iff.2 ⟨h.1, h.2, rfl⟩)
    simp only [isSome_digit?_iff, not_and_or, not_forall, exists_prop] at hnot
    refine ⟨fun _ => hnot.imp_left (by omega), fun _ => ⟨cause, by rw [ofHex, hds]⟩⟩
  | ok ds =>
    obtain ⟨heven, hsome, -⟩ := digits_eq_ok_iff.1 hds
    simp only [isSome_digit?_iff] at hsome
    rw [ofHex_of_digits hds]
    constructor
    · rintro ⟨cause, h⟩
      split at h <;> cases h
    · rintro (hodd | ⟨b, hb, hnot⟩)
      · omega
      · exact absurd (hsome b hb) hnot

/-- `ofHex` fails with `length n` exactly on texts of `2 * n` hexadecimal digits, for `n` other than
`size`. -/
theorem ofHex_length_iff {n : Nat} :
    ofHex s = .error (.length n)
      ↔ s.length = 2 * n ∧ n ≠ size ∧ ∀ c ∈ s.toList, IsHexDigit c := by
  rcases ofHex_cases s with ⟨hnot, cause, hs⟩ | ⟨hpairs, id, hs⟩
  · simp only [hs, Except.error.injEq, reduceCtorEq, false_iff]
    exact fun h => hnot ⟨by omega, h.2.2⟩
  · rw [hs]
    by_cases hlength : s.length = 2 * size
    · simp only [if_pos hlength, reduceCtorEq, false_iff]
      exact fun h => h.2.1 (by omega)
    · rw [if_neg hlength, Except.error.injEq, Error.length.injEq]
      exact ⟨fun h => ⟨by omega, by omega, hpairs.2⟩, fun h => by omega⟩

/-- `String.toLower`, character by character. -/
theorem toList_toLower (s : String) : s.toLower.toList = s.toList.map Char.toLower :=
  String.toList_map

/-- `toHex` of an identifier that `ofHex` reads is the text in lower case. -/
theorem toHex_of_ofHex (h : ofHex s = .ok id) : id.toHex = s.toLower := by
  cases hds : digits (utf8 s) with
  | error cause =>
    rw [ofHex, hds] at h
    cases h
  | ok ds =>
    rw [ofHex_of_digits hds] at h
    split at h
    · rename_i hlength
      cases h
      have hlengthDs : ds.length = 24 := by
        rw [length_of_digits hds, ← (isAlphanum_of_digits hds).2, hlength]
        rfl
      obtain ⟨-, hsome, rfl⟩ := digits_eq_ok_iff.1 hds
      have hsmall : ∀ d ∈ (utf8 s).filterMap digit?, d < 16 := by
        intro d hd
        obtain ⟨b, -, hb⟩ := List.mem_filterMap.1 hd
        exact digit?_lt hb
      have hvalue : Encoding.ofDigits 16 ((utf8 s).filterMap digit?) < 2 ^ 96 := by
        have hlt := ofDigits_lt hsmall
        rwa [hlengthDs] at hlt
      have hback := toDigits_ofDigits hsmall
      rw [hlengthDs] at hback
      rw [utf8_eq_flatMap] at hsome hback hvalue ⊢
      rw [← String.toList_inj, toHex, ofDigits, text, String.toList_ofList, BitVec.toNat_ofNat,
        Nat.mod_eq_of_lt hvalue, hback, digitChars_of_forall (forall_isHexDigit_iff.2 hsome),
        toList_toLower]
    · cases h

/-! ## Order -/

/-- `compare` orders identifiers by `code`. -/
theorem compare_eq_lt_iff {x y : NoteId} : compare x y = .lt ↔ x.code.toNat < y.code.toNat := by
  show compare x.code y.code = .lt ↔ _
  rw [← BitVec.lt_def]
  exact compareOfLessAndEq_eq_lt

/-- `toHex` orders identifiers by `code`. -/
theorem toHex_lt_iff {x y : NoteId} : x.toHex < y.toHex ↔ x.code.toNat < y.code.toNat := by
  rw [String.lt_iff_toList_lt, toHex, toHex, text, text, String.toList_ofList, String.toList_ofList,
    map_lt_map_iff digitChar_lt_iff (toDigits_lt (by decide) _ _) (toDigits_lt (by decide) _ _)]
  exact toDigits_lt_iff x.code.isLt y.code.isLt

/-- The bytes of an identifier. -/
def bytes (id : NoteId) : List Nat := toDigits 256 size id.code.toNat

/-- The lexicographic order of `bytes` is the order of `code`. -/
theorem bytes_lt_iff {x y : NoteId} : x.bytes < y.bytes ↔ x.code.toNat < y.code.toNat :=
  toDigits_lt_iff x.code.isLt y.code.isLt

/-- `ofHex` succeeds exactly on texts of 24 hexadecimal digits, and `toHex` of the result is the
text in lower case. It fails with `hex` exactly on texts with an odd number of bytes or a byte that
is no digit, and with `length n` on `2 * n` digits for every other `n`. `ofHex` reads back `toHex`.
`compare` orders identifiers as their `bytes` and as their written forms. -/
theorem ofHex_exact :
    (∀ s, ((∃ id, ofHex s = .ok id) ↔ s.length = 24 ∧ ∀ c ∈ s.toList, IsHexDigit c)
      ∧ (∀ id, ofHex s = .ok id → id.toHex = s.toLower)
      ∧ ((∃ cause, ofHex s = .error (.hex cause)) ↔
          (utf8 s).length % 2 = 1 ∨ ∃ b ∈ utf8 s, ¬ IsHexDigit (Char.ofNat b.toNat))
      ∧ ∀ n, ofHex s = .error (.length n) ↔
          s.length = 2 * n ∧ n ≠ 12 ∧ ∀ c ∈ s.toList, IsHexDigit c)
    ∧ (∀ id, ofHex id.toHex = .ok id)
    ∧ ∀ x y : NoteId,
      (compare x y = .lt ↔ x.bytes < y.bytes) ∧ (compare x y = .lt ↔ x.toHex < y.toHex) := by
  refine ⟨fun s => ⟨ofHex_ok_iff, fun id => toHex_of_ofHex, ofHex_hex_iff, fun n => ?_⟩,
    ofHex_toHex, fun x y => ?_⟩
  · exact ofHex_length_iff
  · rw [compare_eq_lt_iff, bytes_lt_iff, toHex_lt_iff]
    exact ⟨Iff.rfl, Iff.rfl⟩

/-- `ofHex_exact` for a text of 24 digits in both cases and for one of 8. -/
theorem ofHex_exact_mixedCase :
    ∃ id, ofHex "65F1a2B3c4d5e6F708091A2b" = .ok id ∧ id.toHex = "65f1a2b3c4d5e6f708091a2b"
      ∧ ofHex "65F1a2B3" = .error (.length 4) := by
  have hdigits : "65F1a2B3c4d5e6F708091A2b".toList.all (fun c => decide (IsHexDigit c)) = true := by
    decide
  have hfew : "65F1a2B3".toList.all (fun c => decide (IsHexDigit c)) = true := by decide
  have hisDigit {cs : List Char} (h : cs.all (fun c => decide (IsHexDigit c)) = true) :
      ∀ c ∈ cs, IsHexDigit c := fun c hc => of_decide_eq_true (List.all_eq_true.1 h c hc)
  obtain ⟨hread, hwritten, -, -⟩ := ofHex_exact.1 "65F1a2B3c4d5e6F708091A2b"
  obtain ⟨id, hid⟩ := hread.2 ⟨rfl, hisDigit hdigits⟩
  have hlower : "65F1a2B3c4d5e6F708091A2b".toLower = "65f1a2b3c4d5e6f708091a2b" := by
    rw [← String.toList_inj, toList_toLower]
    decide
  have hshort := ((ofHex_exact.1 "65F1a2B3").2.2.2 4).2 ⟨rfl, by decide, hisDigit hfew⟩
  exact ⟨id, hid, hlower ▸ hwritten id hid, hshort⟩

end NoteId

end NotePager

import Mathlib.Data.List.Basic
import NotePager.Note.Id

/-!
# Reading back identifiers

The written form of an identifier is read back as that identifier (`NoteId.ofHex_toHex`). Its
characters are ASCII, so its bytes are its digits one by one. Whatever is read as an identifier has
as many bytes, so a written form that has been cut is not (`NoteId.ofHex_cut`). All of them are
digits, so what has another byte among its own is refused for that (`NoteId.ofHex_of_not_digit`).
-/

namespace NotePager

open Encoding

/-- `Text.utf8` of a list of characters, by `String.utf8EncodeChar`. -/
theorem Text.utf8_ofList (cs : List Char) :
    utf8 (String.ofList cs) = cs.flatMap String.utf8EncodeChar := by
  simp [utf8, List.utf8Encode]

/-- `Text.utf8` by `String.utf8EncodeChar`. -/
theorem Text.utf8_eq_flatMap (s : String) : utf8 s = s.toList.flatMap String.utf8EncodeChar := by
  rw [← utf8_ofList, String.ofList_toList]

/-- `Text.utf8` of an append. -/
theorem Text.utf8_append (s t : String) : utf8 (s ++ t) = utf8 s ++ utf8 t := by
  simp [utf8]

/-- Letters and digits are ASCII. -/
theorem Text.toNat_lt_of_isAlphanum {c : Char} (hc : c.isAlphanum = true) : c.toNat < 128 := by
  have hkinds : ((c.isUpper || c.isLower) || c.isDigit) = true := hc
  rw [Bool.or_eq_true, Bool.or_eq_true] at hkinds
  rcases hkinds with (hupper | hlower) | hdigit
  · have hlast : c.val ≤ 'Z'.val := (of_decide_eq_true hupper).2
    exact Nat.lt_of_le_of_lt (UInt32.le_iff_toNat_le.1 hlast) (by decide)
  · have hlast : c.val ≤ 'z'.val := of_decide_eq_true (Bool.and_eq_true_iff.1 hlower).2
    exact Nat.lt_of_le_of_lt (UInt32.le_iff_toNat_le.1 hlast) (by decide)
  · have hlast : c.val ≤ '9'.val := of_decide_eq_true (Bool.and_eq_true_iff.1 hdigit).2
    exact Nat.lt_of_le_of_lt (UInt32.le_iff_toNat_le.1 hlast) (by decide)

/-- `String.utf8EncodeChar` of a character beyond ASCII has a byte beyond ASCII. -/
theorem Text.mem_utf8EncodeChar {c : Char} (hc : 128 ≤ c.toNat) :
    ∃ b ∈ String.utf8EncodeChar c, 128 ≤ b.toNat := by
  have hlast : 128 ≤ (UInt8.ofNat (c.toNat % 64 + 128)).toNat := by
    rw [UInt8.toNat_ofNat']
    omega
  have hnot : ¬ c.val.toNat ≤ 127 := Nat.not_le.2 hc
  refine ⟨_, ?_, hlast⟩
  simp only [String.utf8EncodeChar, if_neg hnot, Char.toNat]
  split <;> [skip; split] <;> simp

/-- `toDigits` are below the base. -/
theorem Encoding.toDigits_lt {base : Nat} (hbase : 0 < base) (width n : Nat) :
    ∀ d ∈ toDigits base width n, d < base := by
  induction width generalizing n with
  | zero => simp [toDigits]
  | succ width ih =>
    intro d hd
    rcases List.mem_append.1 hd with hd | hd
    · exact ih (n / base) d hd
    · rw [List.mem_singleton.1 hd]
      exact Nat.mod_lt n hbase

namespace Encoding.Hex

/-- The digit as a byte. -/
def digitByte (d : Nat) : UInt8 := UInt8.ofNat (digitChar d).toNat

/-- `String.utf8EncodeChar` of a `digitChar` is its `digitByte`. -/
theorem utf8EncodeChar_digitChar :
    ∀ d < 16, String.utf8EncodeChar (digitChar d) = [digitByte d] := by
  decide

/-- `digit?` reads back `digitByte`. -/
theorem digit?_digitByte : ∀ d < 16, digit? (digitByte d) = some d := by decide

/-- `Text.utf8` of `Hex.text` is the bytes of its digits. -/
theorem utf8_text (width n : Nat) :
    Text.utf8 (text width n) = (toDigits 16 width n).map digitByte := by
  rw [text, Text.utf8_ofList, List.flatMap_map, List.map_eq_flatMap]
  refine List.flatMap_congr fun d hd => ?_
  exact utf8EncodeChar_digitChar d (toDigits_lt (by decide) width n d hd)

/-- `digitChar` is a letter or a digit. -/
theorem isAlphanum_digitChar : ∀ d < 16, (digitChar d).isAlphanum = true := by decide

/-- `Hex.text` consists of letters and digits. -/
theorem isAlphanum_text (width n : Nat) :
    ∀ c ∈ (text width n).toList, c.isAlphanum = true := by
  intro c hc
  rw [text, String.toList_ofList] at hc
  obtain ⟨d, hd, rfl⟩ := List.mem_map.1 hc
  exact isAlphanum_digitChar d (toDigits_lt (by decide) width n d hd)

/-- `Hex.digits` reads `Hex.text` of an even width as its digits. -/
theorem digits_text {width : Nat} (hwidth : width % 2 = 0) (n : Nat) :
    digits (Text.utf8 (text width n)) = .ok (toDigits 16 width n) := by
  have hvalue : ∀ d ∈ toDigits 16 width n, digit? (digitByte d) = some d :=
    fun d hd => digit?_digitByte d (toDigits_lt (by decide) width n d hd)
  have hgood : ((toDigits 16 width n).map digitByte).zipIdx.find? (fun p => (digit? p.1).isNone)
      = none := by
    rw [List.find?_eq_none]
    intro p hp
    obtain ⟨d, hd, hb⟩ := List.mem_map.1 (List.fst_mem_of_mem_zipIdx hp)
    rw [← hb, hvalue d hd]
    simp
  have hread : ((toDigits 16 width n).map digitByte).filterMap digit? = toDigits 16 width n := by
    rw [List.filterMap_map]
    refine (List.filterMap_congr ?_).trans List.filterMap_some
    exact hvalue
  rw [utf8_text, digits, hgood, hread]
  simp [hwidth]

/-- `Hex.digits` succeeds on digits only. -/
theorem isSome_of_digits {bytes : List UInt8} {ds : List Nat} (h : digits bytes = .ok ds) :
    ∀ b ∈ bytes, (digit? b).isSome = true := by
  rw [digits] at h
  split at h
  · cases h
  · split at h
    · cases h
    · rename_i hgood
      intro b hb
      obtain ⟨i, hi, rfl⟩ := List.mem_iff_getElem.1 hb
      have hdigit := List.find?_eq_none.1 hgood (bytes[i], i)
        (List.mem_zipIdx_iff_getElem?.2 (List.getElem?_eq_getElem hi))
      simpa [Option.isSome_iff_ne_none] using hdigit

/-- `Hex.digits` gives one digit for each byte. -/
theorem length_of_digits {bytes : List UInt8} {ds : List Nat} (h : digits bytes = .ok ds) :
    ds.length = bytes.length := by
  have hbytes := isSome_of_digits h
  rw [digits] at h
  split at h
  · cases h
  · split at h
    · cases h
    · cases h
      exact List.filterMap_length_eq_length.2 hbytes

/-- A byte that `digit?` reads is ASCII. -/
theorem toNat_lt_of_isSome {b : UInt8} (h : (digit? b).isSome = true) : b.toNat < 128 := by
  simp only [digit?] at h
  split at h
  · omega
  · split at h
    · omega
    · split at h
      · omega
      · cases h

/-- A character whose bytes `digit?` reads is a letter or a digit, of one byte. -/
theorem isAlphanum_of_bytes {c : Char}
    (h : ∀ b ∈ String.utf8EncodeChar c, (digit? b).isSome = true) :
    c.isAlphanum = true ∧ (String.utf8EncodeChar c).length = 1 := by
  have htable : ∀ n < 128, (∀ b ∈ String.utf8EncodeChar (Char.ofNat n), (digit? b).isSome = true) →
      (Char.ofNat n).isAlphanum = true ∧ (String.utf8EncodeChar (Char.ofNat n)).length = 1 := by
    decide +kernel
  have hascii : c.toNat < 128 := by
    by_contra hbeyond
    obtain ⟨b, hb, hlarge⟩ := Text.mem_utf8EncodeChar (Nat.not_lt.1 hbeyond)
    exact absurd (toNat_lt_of_isSome (h b hb)) (Nat.not_lt.2 hlarge)
  have hc := htable c.toNat hascii
  rw [Char.ofNat_toNat] at hc
  exact hc h

/-- A text that `Hex.digits` reads consists of letters and digits, of one byte each. -/
theorem isAlphanum_of_digits {s : String} {ds : List Nat} (h : digits (Text.utf8 s) = .ok ds) :
    (∀ c ∈ s.toList, c.isAlphanum = true) ∧ s.length = (Text.utf8 s).length := by
  have hutf8 := Text.utf8_eq_flatMap s
  have hchars : ∀ c ∈ s.toList,
      c.isAlphanum = true ∧ (String.utf8EncodeChar c).length = 1 := fun c hc =>
    isAlphanum_of_bytes fun b hb =>
      isSome_of_digits h b (hutf8 ▸ List.mem_flatMap.2 ⟨c, hc, hb⟩)
  refine ⟨fun c hc => (hchars c hc).1, ?_⟩
  rw [hutf8, List.length_flatMap, List.map_congr_left fun c hc => (hchars c hc).2,
    ← String.length_toList]
  simp

end Encoding.Hex

namespace NoteId

/-- `NoteId.ofHex` reads back `NoteId.toHex`. -/
theorem ofHex_toHex (id : NoteId) : ofHex id.toHex = .ok id := by
  have hlt : id.code.toNat < Nat.pow 16 24 := id.code.isLt
  have hdigits : Hex.digits (Text.utf8 id.toHex) = .ok (toDigits 16 24 id.code.toNat) :=
    Hex.digits_text rfl _
  rw [ofHex, hdigits]
  simp only [length_toDigits, size, ofDigits, ofDigits_toDigits 16 24 _ hlt, if_true]
  rw [BitVec.ofNat_toNat, BitVec.setWidth_eq]

/-- `NoteId.ofHex` succeeds on texts of `2 * size` bytes only. -/
theorem length_of_ofHex {s : String} {id : NoteId} (h : ofHex s = .ok id) :
    (Text.utf8 s).length = 2 * size := by
  rw [ofHex] at h
  split at h
  · cases h
  · rename_i ds hds
    split at h
    · rename_i hlength
      rw [← Hex.length_of_digits hds, hlength]
    · cases h

/-- `NoteId.ofHex` succeeds on texts of `2 * size` letters and digits only. -/
theorem isAlphanum_of_ofHex {s : String} {id : NoteId} (h : ofHex s = .ok id) :
    (∀ c ∈ s.toList, c.isAlphanum = true) ∧ s.length = 2 * size := by
  have hbytes := length_of_ofHex h
  rw [ofHex] at h
  split at h
  · cases h
  · rename_i ds hds
    rw [← hbytes]
    exact Hex.isAlphanum_of_digits hds

/-- `NoteId.ofHex` fails with `hex` on a text with a byte that `digit?` does not read. -/
theorem ofHex_of_not_digit {s : String} {b : UInt8} (hb : b ∈ Text.utf8 s)
    (hdigit : Hex.digit? b = none) : ∃ cause, ofHex s = .error (.hex cause) := by
  cases hds : Hex.digits (Text.utf8 s) with
  | error cause => exact ⟨cause, by rw [ofHex, hds]⟩
  | ok ds =>
    have hsome := Hex.isSome_of_digits hds b hb
    rw [hdigit] at hsome
    cases hsome

/-- `NoteId.ofHex` fails on a proper prefix of `NoteId.toHex`. -/
theorem ofHex_cut {id : NoteId} {front back : String} (hcut : front ++ back = id.toHex)
    (hback : back ≠ "") : ∃ e, ofHex front = .error e := by
  cases hfront : ofHex front with
  | error e => exact ⟨e, rfl⟩
  | ok id' =>
    have hshort := length_of_ofHex hfront
    have hwhole := length_of_ofHex id.ofHex_toHex
    rw [← hcut, Text.utf8_append, List.length_append, hshort, Nat.add_eq_left] at hwhole
    have hread := Text.ofUtf8?_utf8 back
    rw [List.length_eq_zero_iff.1 hwhole] at hread
    exact absurd (Option.some.inj (hread.symm.trans (Text.ofUtf8?_utf8 ""))) hback

end NoteId

end NotePager

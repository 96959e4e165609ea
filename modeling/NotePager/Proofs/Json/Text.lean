import NotePager.Json.Reader

/-!
# Reading back JSON strings and members

A string between quotes is read back as that string, whatever its characters and whatever follows
it (`Reader.string_quoted`). The reader takes back escapes one byte at a time
(`stringOnto_escapeByte`). Of an object, a member with a known key hands its value to the reader of
that field (`Reader.members_first`, `Reader.members_further`), up to the closing brace
(`Reader.members_end`).
-/

namespace NotePager.Json

open Text

/-! ## Strings -/

/-- `hexQuad?` reads back the four digits of a control. -/
theorem hexQuad?_hexByte :
    ∀ n < 32, hexQuad? 0x30 0x30 (hexByte (n / 16)) (hexByte (n % 16)) = some n := by
  decide

/-- `String.utf8EncodeChar` of an ASCII character is one byte. -/
theorem utf8EncodeChar_ofNat :
    ∀ n < 128, String.utf8EncodeChar (Char.ofNat n) = [UInt8.ofNat n] := by
  decide

/-- `pushCode` of an ASCII code pushes its byte. -/
theorem pushCode_ascii {n : Nat} (h : n < 128) (read : List UInt8) :
    pushCode n read = UInt8.ofNat n :: read := by
  rw [pushCode, utf8EncodeChar_ofNat n h]
  rfl

/-- `stringOnto` reads the numeric escape of a control. -/
theorem stringOnto_control {b : UInt8} (h : b < 0x20) (read rest : List UInt8) :
    stringOnto read
        (0x5C :: 0x75 :: 0x30 :: 0x30 :: hexByte (b.toNat / 16) :: hexByte (b.toNat % 16) :: rest)
      = stringOnto (b :: read) rest := by
  have hlt : b.toNat < 32 := UInt8.lt_iff_toNat_lt.1 h
  have hpush : pushCode b.toNat read = b :: read := by
    rw [pushCode_ascii (by omega), UInt8.ofNat_toNat]
  rw [stringOnto, hexQuad?_hexByte b.toNat hlt]
  simp only
  rw [if_neg (by omega), if_pos (by omega), hpush]

/-- `stringOnto` reads back `escapeByte`. -/
theorem stringOnto_escapeByte (b : UInt8) (read rest : List UInt8) :
    stringOnto read (escapeByte b ++ rest) = stringOnto (b :: read) rest := by
  by_cases hquote : b = 0x22
  · subst hquote
    rfl
  by_cases hslash : b = 0x5C
  · subst hslash
    rfl
  by_cases hplain : b ≥ 0x20
  · have hescape : escapeByte b = [b] := by
      simp [escapeByte, hquote, hslash, hplain]
    have hnot : ¬ b < 0x20 := UInt8.not_lt.2 hplain
    rw [hescape, List.singleton_append, stringOnto, if_neg hnot]
    · exact hquote
    · exact hslash
  · have hlow : b < 0x20 := UInt8.not_le.1 hplain
    by_cases hnamed : b = 0x08 ∨ b = 0x09 ∨ b = 0x0A ∨ b = 0x0C ∨ b = 0x0D
    · rcases hnamed with rfl | rfl | rfl | rfl | rfl <;> rfl
    · have hescape : escapeByte b
          = [0x5C, 0x75, 0x30, 0x30, hexByte (b.toNat / 16), hexByte (b.toNat % 16)] := by
        simp only [not_or] at hnamed
        simp [escapeByte, hquote, hslash, hplain, hnamed]
      rw [hescape]
      exact stringOnto_control hlow read rest

/-- `stringOnto` reads back escaped bytes up to the closing quote. -/
theorem stringOnto_escape (read content rest : List UInt8) :
    stringOnto read (content.flatMap escapeByte ++ 0x22 :: rest)
      = .ok (read.reverse ++ content, rest) := by
  induction content generalizing read with
  | nil => simp [stringOnto]
  | cons b content ih =>
    rw [List.flatMap_cons, List.append_assoc, stringOnto_escapeByte, ih]
    simp

/-- `scanString` reads back an escaped string up to the closing quote. -/
theorem scanString_escape (s : String) (rest : List UInt8) :
    scanString ((utf8 s).flatMap escapeByte ++ 0x22 :: rest) = .ok (s, rest) := by
  simp only [scanString, stringOnto_escape, List.reverse_nil, List.nil_append, ofUtf8?_utf8]

namespace Reader

/-- `Reader.string` reads back `quoted`. -/
theorem string_quoted (s : String) (rest : List UInt8) :
    string (quoted s ++ rest) = .ok (s, rest) := by
  have hfront : skipSpaces (quoted s ++ rest)
      = 0x22 :: ((utf8 s).flatMap escapeByte ++ 0x22 :: rest) := by
    simp [quoted, skipSpaces, isSpace]
  rw [string, hfront]
  exact scanString_escape s rest

/-! ## Members -/

section
variable {σ : Type} {fields : List (Field σ)} {field : Field σ} {key : String}
  {seen : List String} {record record' : σ} {value rest : List UInt8}

/-- `Reader.members` at a first member whose key is that of a field. -/
theorem members_first (hfield : (fields.find? fun f => f.key == key) = some field)
    (hseen : seen.contains key = false) (hread : field.read record value = .ok (record', rest))
    (fuel : Nat) : members fields (fuel + 1) seen true record (quoted key ++ 0x3A :: value)
      = members fields fuel (key :: seen) false record' rest := by
  have hkey : nextKey true (quoted key ++ 0x3A :: value)
      = .ok (some ((utf8 key).flatMap escapeByte ++ 0x22 :: 0x3A :: value)) := by
    simp [nextKey, quoted, skipSpaces, isSpace]
  have hcolon : afterColon (0x3A :: value) = .ok value := rfl
  simp only [members, hkey, bind, Except.bind, scanString_escape, hfield, hseen, hcolon, hread]
  rfl

/-- `Reader.members` at a further member whose key is that of a field. -/
theorem members_further (hfield : (fields.find? fun f => f.key == key) = some field)
    (hseen : seen.contains key = false) (hread : field.read record value = .ok (record', rest))
    (fuel : Nat) :
    members fields (fuel + 1) seen false record (0x2C :: (quoted key ++ 0x3A :: value))
      = members fields fuel (key :: seen) false record' rest := by
  have hkey : nextKey false (0x2C :: (quoted key ++ 0x3A :: value))
      = .ok (some ((utf8 key).flatMap escapeByte ++ 0x22 :: 0x3A :: value)) := by
    simp [nextKey, quoted, skipSpaces, isSpace]
  have hcolon : afterColon (0x3A :: value) = .ok value := rfl
  simp only [members, hkey, bind, Except.bind, scanString_escape, hfield, hseen, hcolon, hread]
  rfl

/-- `Reader.members` at the closing brace. -/
theorem members_end (first : Bool) (fuel : Nat) :
    members fields (fuel + 1) seen first record (0x7D :: rest) = .ok (record, 0x7D :: rest) := by
  have hkey : nextKey first (0x7D :: rest) = .ok none := rfl
  simp only [members, hkey, bind, Except.bind]

end

end Reader

end NotePager.Json

/-!
# UTF-8

Texts as lists of bytes and back. `ofUtf8?` refuses bytes that are not UTF-8; `ofUtf8Lossy` reads
any bytes and puts the replacement character U+FFFD for each longest run of bytes that starts a
character and does not finish it, and for each byte that starts none.
-/

namespace NotePager.Text

/-- The UTF-8 bytes of a text. -/
def utf8 (s : String) : List UInt8 := s.toByteArray.data.toList

/-- The text with these UTF-8 bytes, if they are well formed. -/
def ofUtf8? (bytes : List UInt8) : Option String :=
  if h : (ByteArray.mk bytes.toArray).IsValidUTF8 then some (String.ofByteArray _ h) else none

theorem ofUtf8?_utf8 (s : String) : ofUtf8? (utf8 s) = some s := by
  obtain ⟨b, h⟩ := s
  obtain ⟨a⟩ := b
  simp [ofUtf8?, utf8, h]

theorem utf8_of_ofUtf8? {bytes : List UInt8} {s : String} (h : ofUtf8? bytes = some s) :
    utf8 s = bytes := by
  unfold ofUtf8? at h
  split at h
  · cases h; simp [utf8]
  · cases h

/-- A character that is being read: the bits read so far, how many bytes are owed, and the bounds
of the next one. -/
structure Unfinished where
  code : Nat
  owed : Nat
  low : UInt8
  high : UInt8

/-- Where a reader stands between two bytes: after a whole character, or inside one. -/
abbrev Utf8State := Option Unfinished

/-- The character that stands for bytes which are not UTF-8. -/
def replacement : Char := Char.ofNat 0xFFFD

/-- The first byte of a character: the characters it completes, and where it leaves the reader. -/
def firstByte (b : UInt8) : List Char × Utf8State :=
  if b < 0x80 then ([Char.ofNat b.toNat], none)
  else if b < 0xC2 then ([replacement], none)
  else if b < 0xE0 then ([], some ⟨b.toNat - 0xC0, 1, 0x80, 0xBF⟩)
  else if b == 0xE0 then ([], some ⟨0, 2, 0xA0, 0xBF⟩)
  else if b == 0xED then ([], some ⟨0xD, 2, 0x80, 0x9F⟩)
  else if b < 0xF0 then ([], some ⟨b.toNat - 0xE0, 2, 0x80, 0xBF⟩)
  else if b == 0xF0 then ([], some ⟨0, 3, 0x90, 0xBF⟩)
  else if b < 0xF4 then ([], some ⟨b.toNat - 0xF0, 3, 0x80, 0xBF⟩)
  else if b == 0xF4 then ([], some ⟨4, 3, 0x80, 0x8F⟩)
  else ([replacement], none)

/-- One more byte: the characters it completes, and where it leaves the reader. A byte that does not
continue the character begun ends it as a replacement and is read as a first byte. -/
def nextByte : Utf8State → UInt8 → List Char × Utf8State
  | none, b => firstByte b
  | some u, b =>
    if u.low ≤ b ∧ b ≤ u.high then
      let code := u.code * 64 + (b.toNat - 0x80)
      if u.owed ≤ 1 then ([Char.ofNat code], none)
      else ([], some ⟨code, u.owed - 1, 0x80, 0xBF⟩)
    else
      let (cs, state) := firstByte b
      (replacement :: cs, state)

/-- The text of any bytes, with a replacement character for what is not UTF-8. -/
def ofUtf8Lossy (bytes : List UInt8) : String :=
  let (out, state) := bytes.foldl
    (fun (out, state) b => let (cs, state) := nextByte state b; (cs.reverse ++ out, state))
    (([] : List Char), (none : Utf8State))
  String.ofList (if state.isSome then replacement :: out else out).reverse

end NotePager.Text

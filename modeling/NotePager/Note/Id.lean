import NotePager.Encoding.Hex

/-!
# Note identifiers

An identifier is twelve bytes, kept as the number of 96 bits that they spell with the first byte
first. So the order of the bytes is the order of the numbers, and it is also the order of the
written form, which has 24 lower case hexadecimal digits.
-/

namespace NotePager

open Encoding

/-- Identifies one note. Identifiers that were made in order of time sort by time. -/
structure NoteId where
  code : BitVec 96
  deriving DecidableEq, Repr

namespace NoteId

instance : Ord NoteId := ⟨compareOn NoteId.code⟩

instance : Inhabited NoteId := ⟨⟨0⟩⟩

/-- The number of bytes of an identifier. -/
def size : Nat := 12

/-- Why a text is no identifier. -/
inductive Error where
  /-- The text is not hexadecimal. -/
  | hex (cause : Hex.Error)
  /-- The text spells another number of bytes. -/
  | length (bytes : Nat)
  deriving DecidableEq, Repr

/-- The error in words. -/
def Error.message : Error → String
  | .hex cause => "identifier is not valid hex: " ++ cause.message
  | .length bytes => "identifier must be 12 bytes, got " ++ toString bytes

/-- The identifier whose digits these are, most significant first. -/
def ofDigits (digits : List Nat) : NoteId := ⟨BitVec.ofNat 96 (Encoding.ofDigits 16 digits)⟩

/-- The written form: 24 lower case hexadecimal digits. -/
def toHex (id : NoteId) : String := Hex.text 24 id.code.toNat

/-- Read an identifier: 24 hexadecimal digits in either case. -/
def ofHex (s : String) : Except Error NoteId :=
  match Hex.digits (Text.utf8 s) with
  | .error e => .error (.hex e)
  | .ok ds => if ds.length = 2 * size then .ok (ofDigits ds) else .error (.length (ds.length / 2))

/-- The identifier of the `counter`-th note of a second: four bytes of time, five zero bytes and the
last three bytes of the counter. -/
def fromParts (seconds counter : UInt32) : NoteId :=
  ⟨BitVec.ofNat 96 (seconds.toNat * 0x10000000000000000 + counter.toNat % 0x1000000)⟩

end NoteId

/-- What names the requests that arrive without a name of their own. -/
def requestName (id : NoteId) : String := "req_" ++ id.toHex

end NotePager

import NotePager.Text.Utf8

/-!
# JSON values and their text

The text is compact: no blanks, members in the order given. In a string only the quote, the
backslash and the controls below U+0020 are written as escapes, so every other character stands for
itself. Text is a list of bytes here, because readers of the text have to meet bytes that are no
characters.
-/

namespace NotePager

/-- A JSON value. Numbers are whole. -/
inductive Json where
  | null
  | bool (b : Bool)
  | number (n : Int)
  | text (s : String)
  | array (items : List Json)
  | object (members : List (String × Json))

namespace Json

open Text

/-- A hexadecimal digit as a byte, in lower case. -/
def hexByte (n : Nat) : UInt8 := UInt8.ofNat (if n < 10 then 48 + n else 87 + n)

/-- A byte of a string as it stands between quotes. Bytes of characters beyond ASCII are kept. -/
def escapeByte (b : UInt8) : List UInt8 :=
  if b == 0x22 then [0x5C, 0x22]
  else if b == 0x5C then [0x5C, 0x5C]
  else if b ≥ 0x20 then [b]
  else if b == 0x08 then [0x5C, 0x62]
  else if b == 0x09 then [0x5C, 0x74]
  else if b == 0x0A then [0x5C, 0x6E]
  else if b == 0x0C then [0x5C, 0x66]
  else if b == 0x0D then [0x5C, 0x72]
  else [0x5C, 0x75, 0x30, 0x30, hexByte (b.toNat / 16), hexByte (b.toNat % 16)]

/-- A string between quotes. -/
def quoted (s : String) : List UInt8 := 0x22 :: ((utf8 s).flatMap escapeByte ++ [0x22])

mutual

/-- The text of a value. -/
def bytes : Json → List UInt8
  | null => utf8 "null"
  | bool true => utf8 "true"
  | bool false => utf8 "false"
  | number n => utf8 (toString n)
  | text s => quoted s
  | array items => 0x5B :: (itemsBytes items ++ [0x5D])
  | object members => 0x7B :: (membersBytes members ++ [0x7D])

/-- The texts of the items of an array, with commas between them. -/
def itemsBytes : List Json → List UInt8
  | [] => []
  | [v] => bytes v
  | v :: vs => bytes v ++ 0x2C :: itemsBytes vs

/-- The texts of the members of an object, with commas between them. -/
def membersBytes : List (String × Json) → List UInt8
  | [] => []
  | [(k, v)] => quoted k ++ 0x3A :: bytes v
  | (k, v) :: ms => quoted k ++ 0x3A :: (bytes v ++ 0x2C :: membersBytes ms)

end

/-- A member that is left out when it has no value. -/
def optional (key : String) : Option Json → List (String × Json)
  | none => []
  | some v => [(key, v)]

end Json

end NotePager

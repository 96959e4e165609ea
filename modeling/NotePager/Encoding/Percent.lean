import NotePager.Encoding.Hex

/-!
# Percent encoding

A percent sign and two hexadecimal digits stand for a byte. A percent sign that no two digits follow
stands for itself.
-/

namespace NotePager.Encoding.Percent

/-- Decode behind the bytes that are read already, which stand in reverse. -/
def decodeOnto (read : List UInt8) : List UInt8 → List UInt8
  | [] => read.reverse
  | 0x25 :: a :: b :: rest =>
    match Hex.digit? a, Hex.digit? b with
    | some x, some y => decodeOnto (UInt8.ofNat (x * 16 + y) :: read) rest
    | _, _ => decodeOnto (0x25 :: read) (a :: b :: rest)
  | a :: rest => decodeOnto (a :: read) rest

/-- The bytes that an encoded text stands for. -/
def decode (bytes : List UInt8) : List UInt8 := decodeOnto [] bytes

end NotePager.Encoding.Percent

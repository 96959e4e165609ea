import NotePager.Encoding.Digits
import NotePager.Text.Utf8

/-!
# Hexadecimal text

Digits are written in lower case and read in either. A text of an odd number of bytes is refused
before any of its digits is looked at; otherwise the first byte that is no digit is named.
-/

namespace NotePager.Encoding.Hex

/-- Why a text is not hexadecimal. -/
inductive Error where
  /-- The text has an odd number of bytes. -/
  | oddLength
  /-- The byte at this position is no digit. -/
  | badDigit (byte : UInt8) (position : Nat)
  deriving DecidableEq, Repr

/-- The digit as a lower case character. -/
def digitChar (d : Nat) : Char := Char.ofNat (if d < 10 then 48 + d else 87 + d)

/-- The value of a digit in either case. -/
def digit? (b : UInt8) : Option Nat :=
  let n := b.toNat
  if 48 ≤ n ∧ n ≤ 57 then some (n - 48)
  else if 97 ≤ n ∧ n ≤ 102 then some (n - 87)
  else if 65 ≤ n ∧ n ≤ 70 then some (n - 55)
  else none

/-- The values of the digits of a text, given as its bytes. -/
def digits (bytes : List UInt8) : Except Error (List Nat) :=
  if bytes.length % 2 == 1 then .error .oddLength
  else match bytes.zipIdx.find? fun p => (digit? p.1).isNone with
    | some (b, i) => .error (.badDigit b i)
    | none => .ok (bytes.filterMap digit?)

/-- The number with exactly `width` digits. -/
def text (width n : Nat) : String := String.ofList ((toDigits 16 width n).map digitChar)

/-- A byte as the Latin-1 character of that number, between apostrophes. The apostrophe, the
backslash and the usual controls are written as escapes, other characters that do not print by
their number in braces. -/
def quoteByte (b : UInt8) : String :=
  let n := b.toNat
  let inner :=
    if n == 0 then "\\0"
    else if n == 9 then "\\t"
    else if n == 10 then "\\n"
    else if n == 13 then "\\r"
    else if n == 39 then "\\'"
    else if n == 92 then "\\\\"
    else if n < 32 || (127 ≤ n && n ≤ 160) || n == 173 then
      "\\u\x7b" ++ text (if n < 16 then 1 else 2) n ++ "\x7d"
    else String.singleton (Char.ofNat n)
  "'" ++ inner ++ "'"

/-- The error in words. -/
def Error.message : Error → String
  | .oddLength => "Odd number of digits"
  | .badDigit byte position =>
    "Invalid character " ++ quoteByte byte ++ " at position " ++ toString position

end NotePager.Encoding.Hex

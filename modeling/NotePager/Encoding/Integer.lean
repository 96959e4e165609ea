import NotePager.Encoding.Digits

/-!
# Bounded integers as text

A number is written as ASCII digits, in front of which one sign may stand. Digits are read from the
front, so a text that is both too large and no number is refused for whichever shows first.
-/

namespace NotePager.Encoding

/-- Why a text is no number of the wanted range. -/
inductive IntegerError where
  /-- A character is no digit, or there is none. -/
  | invalidDigit
  | tooLarge
  | tooSmall
  deriving DecidableEq, Repr

/-- The error in words. -/
def IntegerError.message : IntegerError → String
  | invalidDigit => "invalid digit found in string"
  | tooLarge => "number too large to fit in target type"
  | tooSmall => "number too small to fit in target type"

/-- Read digits behind the number `n` that is read already. More than `limit` is refused with
`beyond`. -/
def readDigits (limit : Nat) (beyond : IntegerError) (n : Nat) :
    List Char → Except IntegerError Nat
  | [] => .ok n
  | c :: cs =>
    match decimalDigit? c with
    | none => .error .invalidDigit
    | some d => if n * 10 + d ≤ limit then readDigits limit beyond (n * 10 + d) cs
      else .error beyond

/-- Read a number that has at least one digit. -/
def readMagnitude (limit : Nat) (beyond : IntegerError) : List Char → Except IntegerError Nat
  | [] => .error .invalidDigit
  | cs => readDigits limit beyond 0 cs

/-- Read a number with a sign, from `-(size / 2)` up to, not including, `size / 2`: these are the
`size` numbers of a word that can be negative. -/
def readSigned (size : Nat) : List Char → Except IntegerError Int
  | '-' :: cs => (readMagnitude (size / 2) .tooSmall cs).map fun n => -(n : Int)
  | '+' :: cs => (readMagnitude (size / 2 - 1) .tooLarge cs).map fun n => (n : Int)
  | cs => (readMagnitude (size / 2 - 1) .tooLarge cs).map fun n => (n : Int)

/-- Read a number below `size`; a plus may stand in front. -/
def readUnsigned (size : Nat) : List Char → Except IntegerError Nat
  | '+' :: cs => readMagnitude (size - 1) .tooLarge cs
  | cs => readMagnitude (size - 1) .tooLarge cs

end NotePager.Encoding

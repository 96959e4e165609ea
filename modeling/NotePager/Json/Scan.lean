import NotePager.Encoding.Digits
import NotePager.Encoding.Hex
import NotePager.Json.Basic

/-!
# Scanning JSON text

What readers of typed values are made of: strings, numbers and words at the front of a text, and the
skipping of a value that is not wanted. Text is read once, from the front, and the first thing that
is wrong decides how the text is refused.

Skipping looks at less than reading does: a skipped string need not be UTF-8 and may hold half of a
surrogate pair. It keeps its own stack of open arrays and objects, so no depth of nesting is too
deep.
-/

namespace NotePager.Json

open Encoding Text

/-- Why a text was refused. -/
inductive Fault where
  /-- The text ends before the value does. -/
  | truncated
  /-- The text is not JSON. -/
  | malformed
  /-- The text is JSON so far, but its value is not of the kind that is read. -/
  | mismatch
  deriving DecidableEq, Repr

/-- The four blanks that JSON knows. -/
def isSpace (b : UInt8) : Bool := b == 0x20 || b == 0x0A || b == 0x0D || b == 0x09

/-- The text without the blanks at its front. -/
def skipSpaces (bytes : List UInt8) : List UInt8 := bytes.dropWhile isSpace

/-- The byte is an ASCII digit. -/
def isDigitByte (b : UInt8) : Bool := 0x30 ≤ b && b ≤ 0x39

/-! ## Strings -/

/-- The number that four hexadecimal digits spell. -/
def hexQuad? (a b c d : UInt8) : Option Nat := do
  let a ← Hex.digit? a
  let b ← Hex.digit? b
  let c ← Hex.digit? c
  let d ← Hex.digit? d
  return a * 4096 + b * 256 + c * 16 + d

/-- The byte that an escape of one character stands for. -/
def escaped? (b : UInt8) : Option UInt8 :=
  if b == 0x22 || b == 0x5C || b == 0x2F then some b
  else if b == 0x62 then some 0x08
  else if b == 0x66 then some 0x0C
  else if b == 0x6E then some 0x0A
  else if b == 0x72 then some 0x0D
  else if b == 0x74 then some 0x09
  else none

/-- The UTF-8 bytes of the code point, in reverse in front of the bytes that are there already. -/
def pushCode (code : Nat) (read : List UInt8) : List UInt8 :=
  (String.utf8EncodeChar (Char.ofNat code)).reverse ++ read

/-- The bytes of a string, of which the opening quote has been read, and what follows it. `read`
holds the bytes read so far, in reverse. A code point above U+FFFF is escaped as a pair of
surrogates, and no surrogate may stand alone. -/
def stringOnto (read : List UInt8) : List UInt8 → Except Fault (List UInt8 × List UInt8)
  | [] => .error .truncated
  | 0x22 :: rest => .ok (read.reverse, rest)
  | 0x5C :: rest =>
    match rest with
    | [] => .error .truncated
    | 0x75 :: a :: b :: c :: d :: rest =>
      match hexQuad? a b c d with
      | none => .error .malformed
      | some high =>
        if 0xDC00 ≤ high ∧ high ≤ 0xDFFF then .error .malformed
        else if high < 0xD800 ∨ 0xDBFF < high then stringOnto (pushCode high read) rest
        else match rest with
          | [] => .error .truncated
          | [0x5C] => .error .truncated
          | 0x5C :: 0x75 :: a :: b :: c :: d :: rest =>
            match hexQuad? a b c d with
            | none => .error .malformed
            | some low =>
              if low < 0xDC00 ∨ 0xDFFF < low then .error .malformed
              else stringOnto
                (pushCode ((high - 0xD800) * 1024 + (low - 0xDC00) + 0x10000) read) rest
          | 0x5C :: 0x75 :: _ => .error .truncated
          | _ => .error .malformed
    | 0x75 :: _ => .error .truncated
    | b :: rest =>
      match escaped? b with
      | none => .error .malformed
      | some b => stringOnto (b :: read) rest
  | b :: rest => if b < 0x20 then .error .malformed else stringOnto (b :: read) rest

/-- A string, of which the opening quote has been read, and what follows it. Whether its bytes are
UTF-8 is asked only at the closing quote. -/
def scanString (bytes : List UInt8) : Except Fault (String × List UInt8) :=
  match stringOnto [] bytes with
  | .error e => .error e
  | .ok (content, rest) =>
    match ofUtf8? content with
    | none => .error .malformed
    | some s => .ok (s, rest)

/-! ## Words and numbers -/

/-- The rest of a word such as `null`, and what follows it. -/
def scanWord : List UInt8 → List UInt8 → Except Fault (List UInt8)
  | [], bytes => .ok bytes
  | _ :: _, [] => .error .truncated
  | w :: word, b :: bytes => if w == b then scanWord word bytes else .error .malformed

/-- A number by its digits. -/
structure NumberText where
  negative : Bool
  whole : List UInt8
  fraction : List UInt8
  exponent : Option Int

/-- The value of ASCII digits. -/
def digitsValue (digits : List UInt8) : Nat := ofDigits 10 (digits.map fun b => b.toNat - 48)

/-- One or more digits, and what follows them. -/
def scanDigits (bytes : List UInt8) : Except Fault (List UInt8 × List UInt8) :=
  match bytes with
  | [] => .error .truncated
  | b :: _ =>
    if isDigitByte b then .ok (bytes.takeWhile isDigitByte, bytes.dropWhile isDigitByte)
    else .error .malformed

/-- The digits before the point: a zero that stands alone, or digits that do not start with one. -/
def scanWhole (bytes : List UInt8) : Except Fault (List UInt8 × List UInt8) :=
  match bytes with
  | 0x30 :: b :: rest =>
    if isDigitByte b then .error .malformed else .ok ([0x30], b :: rest)
  | _ => scanDigits bytes

/-- The digits after the point, if there is one. -/
def scanFraction (bytes : List UInt8) : Except Fault (List UInt8 × List UInt8) :=
  match bytes with
  | 0x2E :: rest => scanDigits rest
  | _ => .ok ([], bytes)

/-- The exponent, if there is one. -/
def scanExponent (bytes : List UInt8) : Except Fault (Option Int × List UInt8) :=
  match bytes with
  | b :: rest =>
    if b == 0x65 || b == 0x45 then
      match rest with
      | 0x2D :: rest => (scanDigits rest).map fun (ds, rest) => (some (-(digitsValue ds : Int)), rest)
      | 0x2B :: rest => (scanDigits rest).map fun (ds, rest) => (some (digitsValue ds), rest)
      | _ => (scanDigits rest).map fun (ds, rest) => (some (digitsValue ds), rest)
    else .ok (none, bytes)
  | [] => .ok (none, [])

/-- The number is too large for a double precision float: it would round to infinity. -/
def NumberText.overflows (n : NumberText) : Bool :=
  let digits := (n.whole ++ n.fraction).dropWhile (· == 0x30)
  let scale := n.exponent.getD 0 - n.fraction.length
  let size := digits.length + scale
  if digits.isEmpty || size < 309 then false
  else if 309 < size then true
  else
    let value := digitsValue digits
    let limit := Nat.pow 2 1024 - Nat.pow 2 970
    if scale ≥ 0 then decide (limit ≤ value * Nat.pow 10 scale.toNat)
    else decide (limit * Nat.pow 10 (-scale).toNat ≤ value)

/-- A number, and what follows it. -/
def scanNumber (bytes : List UInt8) : Except Fault (NumberText × List UInt8) := do
  let (negative, bytes) := match bytes with
    | 0x2D :: rest => (true, rest)
    | _ => (false, bytes)
  let (whole, bytes) ← scanWhole bytes
  let (fraction, bytes) ← scanFraction bytes
  let (exponent, bytes) ← scanExponent bytes
  let number : NumberText := { negative, whole, fraction, exponent }
  if number.overflows then .error .malformed else .ok (number, bytes)

/-! ## Skipping -/

/-- What is open around the place that is skipped. -/
inductive Frame where
  | array
  | object
  deriving DecidableEq

/-- What may come next while a value is skipped. -/
inductive SkipState where
  /-- A value. -/
  | value
  /-- The first item or member of what was just opened, or its end. -/
  | opened
  /-- The key of a further member. -/
  | key
  /-- The colon after a key. -/
  | colon
  /-- A comma or the end of what is open. -/
  | afterValue
  /-- More of a string, which is a key or a value. -/
  | string (isKey : Bool)
  /-- The character that was announced by a backslash. -/
  | escape (isKey : Bool)
  /-- So many digits of a numbered escape; `sound` when those so far were digits. -/
  | hex (isKey : Bool) (owed : Nat) (sound : Bool)
  /-- The rest of a word such as `null`. -/
  | word (rest : List UInt8)
  /-- The first digit of a number. -/
  | minus
  /-- What follows a leading zero. -/
  | zero
  /-- More digits before the point. -/
  | whole
  /-- The first digit after the point. -/
  | point
  /-- More digits after the point. -/
  | fraction
  /-- The sign or first digit of an exponent. -/
  | exponentStart
  /-- The first digit of an exponent. -/
  | exponentDigit
  /-- More digits of an exponent. -/
  | exponent

/-- What reading one more byte comes to. -/
inductive SkipStep where
  /-- Go on. -/
  | next (state : SkipState) (stack : List Frame)
  /-- The value ended with this byte. -/
  | ended
  /-- The value ended before this byte. -/
  | endedBefore
  /-- The text is not JSON. -/
  | refused

namespace SkipStep

/-- A value has ended with this byte. -/
def endValue : List Frame → SkipStep
  | [] => ended
  | stack => next .afterValue stack

/-- The innermost frame is closed by this byte, if it is of the right kind. -/
def close (frame : Frame) : List Frame → SkipStep
  | f :: stack => if f = frame then endValue stack else refused
  | [] => refused

/-- The start of a value. -/
def startValue (stack : List Frame) (b : UInt8) : SkipStep :=
  if b == 0x22 then next (.string false) stack
  else if b == 0x5B then next .opened (.array :: stack)
  else if b == 0x7B then next .opened (.object :: stack)
  else if b == 0x6E then next (.word [0x75, 0x6C, 0x6C]) stack
  else if b == 0x74 then next (.word [0x72, 0x75, 0x65]) stack
  else if b == 0x66 then next (.word [0x61, 0x6C, 0x73, 0x65]) stack
  else if b == 0x2D then next .minus stack
  else if b == 0x30 then next .zero stack
  else if isDigitByte b then next .whole stack
  else refused

/-- The byte after a value inside an array or object. -/
def afterValue (stack : List Frame) (b : UInt8) : SkipStep :=
  if isSpace b then next .afterValue stack
  else if b == 0x2C then
    match stack with
    | .object :: _ => next .key stack
    | _ => next .value stack
  else if b == 0x5D then close .array stack
  else if b == 0x7D then close .object stack
  else refused

/-- The byte after a number, which belongs to what is around the number. -/
def afterNumber (stack : List Frame) (b : UInt8) : SkipStep :=
  match stack with
  | [] => endedBefore
  | stack => afterValue stack b

/-- The byte after the digits before the point. -/
def afterWhole (stack : List Frame) (b : UInt8) : SkipStep :=
  if b == 0x2E then next .point stack
  else if b == 0x65 || b == 0x45 then next .exponentStart stack
  else afterNumber stack b

/-- A digit that has to be there. -/
def digitInto (state : SkipState) (stack : List Frame) (b : UInt8) : SkipStep :=
  if isDigitByte b then next state stack else refused

end SkipStep

/-- The end of a string, which is a key or a value. -/
def SkipStep.endString (isKey : Bool) (stack : List Frame) : SkipStep :=
  if isKey then next .colon stack else endValue stack

open SkipStep in
/-- One more byte of a value that is skipped. -/
def skipStep (stack : List Frame) (b : UInt8) : SkipState → SkipStep
  | .value => if isSpace b then next .value stack else startValue stack b
  | .opened =>
    if isSpace b then next .opened stack
    else match stack with
      | .object :: outer =>
        if b == 0x7D then endValue outer
        else if b == 0x22 then next (.string true) stack
        else refused
      | .array :: outer => if b == 0x5D then endValue outer else startValue stack b
      | [] => refused
  | .key =>
    if isSpace b then next .key stack
    else if b == 0x22 then next (.string true) stack
    else refused
  | .colon =>
    if isSpace b then next .colon stack
    else if b == 0x3A then next .value stack
    else refused
  | .afterValue => afterValue stack b
  | .string isKey =>
    if b == 0x22 then endString isKey stack
    else if b == 0x5C then next (.escape isKey) stack
    else if b < 0x20 then refused
    else next (.string isKey) stack
  | .escape isKey =>
    if b == 0x75 then next (.hex isKey 4 true) stack
    else if (escaped? b).isSome then next (.string isKey) stack
    else refused
  | .hex isKey owed sound =>
    let sound := sound && (Hex.digit? b).isSome
    if 1 < owed then next (.hex isKey (owed - 1) sound) stack
    else if sound then next (.string isKey) stack
    else refused
  | .word rest =>
    match rest with
    | [w] => if w == b then endValue stack else refused
    | w :: rest => if w == b then next (.word rest) stack else refused
    | [] => refused
  | .minus => if b == 0x30 then next .zero stack else digitInto .whole stack b
  | .zero => if isDigitByte b then refused else afterWhole stack b
  | .whole => if isDigitByte b then next .whole stack else afterWhole stack b
  | .point => digitInto .fraction stack b
  | .fraction =>
    if isDigitByte b then next .fraction stack
    else if b == 0x65 || b == 0x45 then next .exponentStart stack
    else afterNumber stack b
  | .exponentStart =>
    if b == 0x2B || b == 0x2D then next .exponentDigit stack else digitInto .exponent stack b
  | .exponentDigit => digitInto .exponent stack b
  | .exponent => if isDigitByte b then next .exponent stack else afterNumber stack b

/-- What the end of the text means: a number may end there, unless digits are owed. -/
def skipEnd (stack : List Frame) : SkipState → Except Fault Unit
  | .zero | .whole | .fraction | .exponent =>
    if stack.isEmpty then .ok () else .error .truncated
  | .minus | .point | .exponentStart | .exponentDigit => .error .malformed
  | _ => .error .truncated

/-- Skip on from some state, to what follows the value. -/
def skipFrom : SkipState → List Frame → List UInt8 → Except Fault (List UInt8)
  | state, stack, [] => (skipEnd stack state).map fun _ => []
  | state, stack, b :: rest =>
    match skipStep stack b state with
    | .next state stack => skipFrom state stack rest
    | .ended => .ok rest
    | .endedBefore => .ok (b :: rest)
    | .refused => .error .malformed

/-- What follows the value at the front of the text. -/
def skipValue (bytes : List UInt8) : Except Fault (List UInt8) := skipFrom .value [] bytes

end NotePager.Json

/-!
# Base64 for URLs

Bytes as letters, digits, `-` and `_`, six bits a character. Writing puts no padding. Reading takes
padding that is absent, complete or partial, as long as it stands at the end and is not more than
completes the last group of four; the bits of the last character that belong to no byte have to be
zero, so every byte string has exactly one unpadded form.
-/

namespace NotePager.Encoding.Base64Url

/-- The character for six bits. -/
def symbol (n : Nat) : Char :=
  if n < 26 then Char.ofNat (65 + n)
  else if n < 52 then Char.ofNat (71 + n)
  else if n < 62 then Char.ofNat (n - 4)
  else if n = 62 then '-'
  else '_'

/-- The six bits that a character stands for. -/
def value? (c : Char) : Option Nat :=
  let n := c.toNat
  if 65 ≤ n ∧ n ≤ 90 then some (n - 65)
  else if 97 ≤ n ∧ n ≤ 122 then some (n - 71)
  else if 48 ≤ n ∧ n ≤ 57 then some (n + 4)
  else if c = '-' then some 62
  else if c = '_' then some 63
  else none

/-- Write bytes behind the characters that are written already, which stand in reverse. -/
def encodeOnto (written : List Char) : List UInt8 → List Char
  | a :: b :: c :: rest =>
    let n := a.toNat * 65536 + b.toNat * 256 + c.toNat
    encodeOnto (symbol (n % 64) :: symbol (n / 64 % 64) :: symbol (n / 4096 % 64)
      :: symbol (n / 262144) :: written) rest
  | [a, b] =>
    let n := a.toNat * 1024 + b.toNat * 4
    (symbol (n % 64) :: symbol (n / 64 % 64) :: symbol (n / 4096) :: written).reverse
  | [a] =>
    let n := a.toNat * 16
    (symbol (n % 64) :: symbol (n / 64) :: written).reverse
  | [] => written.reverse

/-- The characters for some bytes, without padding. -/
def encode (bytes : List UInt8) : List Char := encodeOnto [] bytes

/-- Read six bit values behind the bytes that are read already, which stand in reverse. -/
def decodeOnto (read : List UInt8) : List Nat → Option (List UInt8)
  | a :: b :: c :: d :: rest =>
    let n := a * 262144 + b * 4096 + c * 64 + d
    decodeOnto (UInt8.ofNat n :: UInt8.ofNat (n / 256) :: UInt8.ofNat (n / 65536) :: read) rest
  | [a, b, c] =>
    let n := a * 4096 + b * 64 + c
    if n % 4 = 0 then some (UInt8.ofNat (n / 4) :: UInt8.ofNat (n / 1024) :: read).reverse
    else none
  | [a, b] =>
    let n := a * 64 + b
    if n % 16 = 0 then some (UInt8.ofNat (n / 16) :: read).reverse else none
  | [_] => none
  | [] => some read.reverse

/-- The bytes that the characters stand for. -/
def decode (cs : List Char) : Option (List UInt8) :=
  let symbols := cs.takeWhile (· != '=')
  let padding := cs.dropWhile (· != '=')
  if padding.all (· == '=') && (padding.isEmpty || symbols.length % 4 + padding.length ≤ 4 &&
      symbols.length % 4 != 0) then
    (symbols.mapM value?).bind (decodeOnto [])
  else none

end NotePager.Encoding.Base64Url

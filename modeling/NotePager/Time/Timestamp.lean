import NotePager.Encoding.Digits
import NotePager.Text.Blank
import NotePager.Time.Calendar
import NotePager.Time.Instant

/-!
# Timestamps

Instants as text: date, `T`, time of day and offset from UTC. Writing always uses UTC, puts `Z`, and
of 0, 3, 6 and 9 digits after the point the fewest that are exact. Reading takes any offset of less
than a day and any number of digits after the point, of which nine count; it also lets the
separator be a small `t` or a blank, lets numbers go without leading zeros and lets blanks stand
between the parts. A second 60 is a leap second.
-/

namespace NotePager.Timestamp

open Encoding Text

/-- The number of days from the first of January of the year 0 to the beginning of 1970. -/
def epochDays : Int := 719528

/-- The fraction of a second: nothing, or a point and 3, 6 or 9 digits, the fewest that are
exact. -/
def fractionText (nanos : Nat) : List Char :=
  if nanos = 0 then []
  else if nanos % 1000000 = 0 then '.' :: padded 3 (nanos / 1000000)
  else if nanos % 1000 = 0 then '.' :: padded 6 (nanos / 1000)
  else '.' :: padded 9 nanos

/-- The year: four digits, and with a sign if it is not one of the years 0 to 9999. -/
def yearText (year : Int) : List Char :=
  if 0 ≤ year ∧ year ≤ 9999 then padded 4 year.toNat
  else
    let digits := (toString year.natAbs).toList
    (if year < 0 then '-' else '+') :: (List.replicate (4 - digits.length) '0' ++ digits)

/-- The timestamp of an instant, as characters. -/
def chars (t : Instant) : List Char :=
  let date := Date.ofDays (t.seconds / 86400 + epochDays)
  let ofDay := (t.seconds % 86400).toNat
  let leap := if t.nanos < 1000000000 then 0 else 1
  yearText date.year ++ '-' :: padded 2 date.month ++ '-' :: padded 2 date.day
    ++ 'T' :: padded 2 (ofDay / 3600) ++ ':' :: padded 2 (ofDay / 60 % 60)
    ++ ':' :: padded 2 (ofDay % 60 + leap) ++ fractionText (t.nanos % 1000000000) ++ ['Z']

/-- The timestamp of an instant. -/
def write (t : Instant) : String := String.ofList (chars t)

/-- Skip blanks. -/
def skipBlanks (cs : List Char) : List Char := cs.dropWhile isBlank

/-- A number of one to `width` digits at the front, and what follows it. -/
def digitsUpTo (width : Nat) (cs : List Char) : Option (Nat × List Char) :=
  let digits := ((cs.take width).takeWhile fun c => (decimalDigit? c).isSome)
  if digits.isEmpty then none
  else some (ofDigits 10 (digits.filterMap decimalDigit?), cs.drop digits.length)

/-- The same after blanks. -/
def number (width : Nat) (cs : List Char) : Option (Nat × List Char) :=
  digitsUpTo width (skipBlanks cs)

/-- The given character after blanks, and what follows it. -/
def mark (c : Char) (cs : List Char) : Option (List Char) :=
  match skipBlanks cs with
  | [] => none
  | d :: rest => if d = c then some rest else none

/-- A year of up to four digits, or of any number of digits after a sign. -/
def year (cs : List Char) : Option (Int × List Char) :=
  match skipBlanks cs with
  | '-' :: rest => (digitsUpTo rest.length rest).map fun (n, rest) => (-(n : Int), rest)
  | '+' :: rest => (digitsUpTo rest.length rest).map fun (n, rest) => ((n : Int), rest)
  | rest => (digitsUpTo 4 rest).map fun (n, rest) => ((n : Int), rest)

/-- The nanoseconds after a point, if there is one. Digits after the ninth are dropped. -/
def fraction (cs : List Char) : Option (Nat × List Char) :=
  match cs with
  | '.' :: rest =>
    let digits := (rest.takeWhile fun c => (decimalDigit? c).isSome).filterMap decimalDigit?
    if digits.isEmpty then none
    else some (ofDigits 10 (digits ++ List.replicate 9 0 |>.take 9), rest.drop digits.length)
  | _ => some (0, cs)

/-- The offset from UTC in seconds: `Z`, `UTC`, or a sign, two digits of hours and two of
minutes. -/
def offset (cs : List Char) : Option (Int × List Char) :=
  match cs with
  | 'Z' :: rest | 'z' :: rest => some (0, rest)
  | c :: h₁ :: h₂ :: rest => do
    if [c, h₁, h₂].map Char.toUpper == ['U', 'T', 'C'] then return (0, rest)
    let sign : Int ← if c = '+' then some 1
      else if c = '-' || c.toNat == 0x2212 then some (-1) else none
    let h₁ ← decimalDigit? h₁
    let h₂ ← decimalDigit? h₂
    match rest.dropWhile fun c => c == ':' || isBlank c with
    | m₁ :: m₂ :: rest => do
      let m₁ ← decimalDigit? m₁
      let m₂ ← decimalDigit? m₂
      if m₁ < 6 && h₁ * 10 + h₂ < 24 then
        some (sign * ((h₁ * 10 + h₂ : Nat) * 3600 + (m₁ * 10 + m₂ : Nat) * 60), rest)
      else none
    | _ => none
  | _ => none

/-- The years that a calendar date may have. -/
def yearInRange (year : Int) : Bool := -262143 ≤ year && year ≤ 262142

/-- The instant of a local date and time of day that is `offset` seconds ahead of UTC. -/
def instant? (date : Date) (hour minute second nanos : Nat) (offset : Int) : Option Instant :=
  if !(yearInRange date.year && date.isValid && hour < 24 && minute < 60 && second ≤ 60) then none
  else
    let leap := if second = 60 then 1 else 0
    let ofDay : Int := (hour * 3600 + minute * 60 + (second - leap) : Nat)
    let seconds := (date.toDays - epochDays) * 86400 + ofDay - offset
    if yearInRange (Date.ofDays (seconds / 86400 + epochDays)).year then
      some ⟨seconds, leap * 1000000000 + nanos % 1000000000, by
        have := Nat.mod_lt nanos (show 0 < 1000000000 by decide)
        show (if second = 60 then 1 else 0) * 1000000000 + _ < _
        split <;> omega⟩
    else none

/-- Read a timestamp, given as characters. -/
def ofChars? (cs : List Char) : Option Instant := do
  let (y, cs) ← year cs
  let cs ← mark '-' cs
  let (month, cs) ← number 2 cs
  let cs ← mark '-' cs
  let (day, cs) ← number 2 cs
  let cs ← match cs with
    | 'T' :: rest | 't' :: rest | ' ' :: rest => some rest
    | _ => none
  let (hour, cs) ← number 2 cs
  let cs ← mark ':' cs
  let (minute, cs) ← number 2 cs
  let cs ← mark ':' cs
  let (second, cs) ← number 2 cs
  let (nanos, cs) ← fraction cs
  let (ahead, cs) ← offset (skipBlanks cs)
  if (skipBlanks cs).isEmpty then instant? ⟨y, month, day⟩ hour minute second nanos ahead else none

/-- Read a timestamp. -/
def read? (s : String) : Option Instant := ofChars? s.toList

end NotePager.Timestamp

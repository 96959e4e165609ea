import NotePager.Settings.Toml.Text
import NotePager.Settings.Value
import NotePager.Time.Calendar

/-!
# Numbers, truth values and dates of TOML

A value that is neither a string nor a collection is one word. Integers have 64 bits; underscores
may stand between their digits. Dates are accepted as such, but are no use to any setting.
-/

namespace NotePager.Toml

open Encoding

/-- The digits of a number in some base, without the underscores. An underscore stands between two
digits. -/
def digits? (digit? : Char → Option Nat) (cs : List Char) : Option (List Nat) :=
  let parts := cs.splitOn '_'
  if parts.all (!·.isEmpty) then parts.flatten.mapM digit? else none

/-- A digit below the base. -/
def digitBelow (base : Nat) (c : Char) : Option Nat := (hexDigit? c).filter (· < base)

/-- The sign in front of a number, as a factor, and the number. -/
def signed : List Char → Int × List Char
  | '-' :: cs => (-1, cs)
  | '+' :: cs => (1, cs)
  | cs => (1, cs)

/-- The digits of a decimal number, which has no leading zeros. -/
def decimal? (cs : List Char) : Option (List Nat) := do
  let ds ← digits? decimalDigit? cs
  if ds.head? = some 0 ∧ cs.length ≠ 1 then none else some ds

/-- An integer. -/
def integer? (word : List Char) : Option Int := do
  let n : Int ← match word with
    | '0' :: 'x' :: cs => (digits? (digitBelow 16) cs).map fun ds => (ofDigits 16 ds : Int)
    | '0' :: 'o' :: cs => (digits? (digitBelow 8) cs).map fun ds => (ofDigits 8 ds : Int)
    | '0' :: 'b' :: cs => (digits? (digitBelow 2) cs).map fun ds => (ofDigits 2 ds : Int)
    | _ =>
      let (sign, cs) := signed word
      (decimal? cs).map fun ds => sign * ofDigits 10 ds
  if -0x8000000000000000 ≤ n ∧ n < 0x8000000000000000 then some n else none

/-- The word is a number with a fraction or an exponent, or one of the words for infinity and no
number. -/
def isFraction (word : List Char) : Bool :=
  let cs := (signed word).2
  let isExponent (c : Char) : Bool := c == 'e' || c == 'E'
  let mantissa := cs.takeWhile (!isExponent ·)
  let whole := mantissa.takeWhile (· != '.')
  let exponentIsGood := match cs.dropWhile (!isExponent ·) with
    | [] => mantissa.contains '.'
    | _ :: exponent => (digits? decimalDigit? (signed exponent).2).isSome
  let fractionIsGood := match mantissa.dropWhile (· != '.') with
    | [] => true
    | _ :: fraction => (digits? decimalDigit? fraction).isSome
  cs == "inf".toList || cs == "nan".toList
    || ((decimal? whole).isSome && fractionIsGood && exponentIsGood)

/-- The number that exactly `width` digits spell. -/
def fixed? (width : Nat) (cs : List Char) : Option Nat := do
  let ds ← cs.mapM decimalDigit?
  if ds.length = width then some (ofDigits 10 ds) else none

/-- The word is a day. -/
def isDay (cs : List Char) : Bool :=
  match cs.splitOn '-' with
  | [y, m, d] =>
    match fixed? 4 y, fixed? 2 m, fixed? 2 d with
    | some year, some month, some day => (Date.mk year month day).isValid
    | _, _, _ => false
  | _ => false

/-- The word is a time of day. -/
def isTimeOfDay (cs : List Char) : Bool :=
  let fraction := cs.dropWhile (· != '.')
  let fractionIsGood := match fraction with
    | [] => true
    | _ :: ds => !ds.isEmpty && ds.all Char.isDigit
  match (cs.takeWhile (· != '.')).splitOn ':' with
  | [h, m, s] =>
    match fixed? 2 h, fixed? 2 m, fixed? 2 s with
    | some hour, some minute, some second =>
      hour < 24 && minute < 60 && second ≤ 60 && fractionIsGood
    | _, _, _ => false
  | _ => false

/-- The word is an offset from UTC. -/
def isOffset (cs : List Char) : Bool :=
  match cs with
  | ['Z'] | ['z'] => true
  | sign :: cs =>
    (sign == '+' || sign == '-') &&
    match cs.splitOn ':' with
    | [h, m] =>
      match fixed? 2 h, fixed? 2 m with
      | some hour, some minute => hour < 24 && minute < 60
      | _, _ => false
    | _ => false
  | [] => false

/-- The word is a time of day, behind which an offset may stand. -/
def isOffsetTime (cs : List Char) : Bool :=
  let inOffset (c : Char) : Bool := c == 'Z' || c == 'z' || c == '+' || c == '-'
  let offset := cs.dropWhile (!inOffset ·)
  isTimeOfDay (cs.takeWhile (!inOffset ·)) && (offset.isEmpty || isOffset offset)

/-- The word is a day, a time of day, or a day with a time behind a `T` or a blank. -/
def isMoment (word : List Char) : Bool :=
  isTimeOfDay word || isDay word
    || (isDay (word.take 10) && ((word.drop 10).take 1).any (['T', 't', ' '].contains ·)
      && isOffsetTime (word.drop 11))

/-- The value of a word. A day or time is a table with a name that no setting has. -/
def scalar? (word : List Char) : Option SettingValue :=
  if word == "true".toList then some (.boolean true)
  else if word == "false".toList then some (.boolean false)
  else match integer? word with
    | some n => some (.integer n)
    | none =>
      if isFraction word then some .fraction
      else if isMoment word then some (.table [("moment", .text (String.ofList word))])
      else none

/-- The character may stand in a word. -/
def isWordChar (c : Char) : Bool := c.isAlphanum || "_+-.:".toList.contains c

/-- The word at the front of a text. A blank between a day and a time belongs to it. -/
def word (cs : List Char) : List Char × List Char :=
  let first := cs.takeWhile isWordChar
  match cs.dropWhile isWordChar with
  | ' ' :: a :: b :: ':' :: rest =>
    if isDay first && a.isDigit && b.isDigit then
      let time := (a :: b :: ':' :: rest).takeWhile isWordChar
      (first ++ ' ' :: time, (a :: b :: ':' :: rest).dropWhile isWordChar)
    else (first, ' ' :: a :: b :: ':' :: rest)
  | rest => (first, rest)

end NotePager.Toml

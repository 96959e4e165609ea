import NotePager.Proofs.Encoding.Digits
import NotePager.Proofs.Encoding.Integer
import NotePager.Proofs.Time.Calendar
import NotePager.Time.Timestamp

/-!
# Reading back timestamps

An instant in the years 0 to 9999 that is no leap second is read back from its timestamp
(`Timestamp.read?_write`). Its parts are digits of a fixed width between marks, so each is read up
to the next mark (`Timestamp.ofChars?_parts`), and the day is given back by its date.

Of 0, 3, 6 and 9 digits after the point, a timestamp has the fewest that are exact
(`Timestamp.fractionDigits_write`).
-/

namespace NotePager

open Encoding Text

namespace Encoding

/-! ## Decimal digits -/

/-- `decimalChar` is a digit, no blank, and read back by `decimalDigit?`. -/
theorem decimalChar_spec : ∀ d < 10, decimalDigit? (decimalChar d) = some d
    ∧ isBlank (decimalChar d) = false ∧ (decimalChar d).isDigit = true := by
  decide

/-- `padded` consists of digits. -/
theorem mem_padded {width n : Nat} {c : Char} (h : c ∈ padded width n) :
    ∃ d < 10, c = decimalChar d := by
  obtain ⟨d, hd, rfl⟩ := List.mem_map.1 h
  exact ⟨d, toDigits_lt (by decide) width n d hd, rfl⟩

@[simp] theorem length_padded (width n : Nat) : (padded width n).length = width := by
  rw [padded, List.length_map, length_toDigits]

/-- `padded` of a positive width begins with a digit. -/
theorem exists_padded_cons {width : Nat} (hwidth : 0 < width) (n : Nat) :
    ∃ d < 10, ∃ cs, padded width n = decimalChar d :: cs := by
  cases hcs : padded width n with
  | nil =>
    have hlength := length_padded width n
    rw [hcs] at hlength
    exact absurd hlength (Nat.ne_of_lt hwidth)
  | cons c cs =>
    obtain ⟨d, hd, rfl⟩ := mem_padded (hcs ▸ List.mem_cons_self : c ∈ padded width n)
    exact ⟨d, hd, cs, rfl⟩

/-- `decimalDigit?` reads back the digits of `padded`. -/
theorem filterMap_padded (width n : Nat) :
    (padded width n).filterMap decimalDigit? = toDigits 10 width n := by
  rw [padded, List.filterMap_map]
  refine (List.filterMap_congr fun d hd => ?_).trans List.filterMap_some
  exact (decimalChar_spec d (toDigits_lt (by decide) width n d hd)).1

/-- `numeralValue` reads back `padded`. -/
theorem numeralValue_padded {width n : Nat} (hn : n < Nat.pow 10 width) :
    numeralValue (padded width n) = n := by
  have hvalue : ∀ d < 10, (decimalChar d).toNat - 48 = d := by decide
  rw [numeralValue, padded, List.map_map, List.map_congr_left (g := id), List.map_id,
    ofDigits_toDigits 10 width n hn]
  exact fun d hd => hvalue d (toDigits_lt (by decide) width n d hd)

/-- `List.takeWhile` of digits takes `padded` in front of something else. -/
theorem takeWhile_padded {p : Char → Bool} (hp : ∀ d < 10, p (decimalChar d) = true)
    {width n : Nat} {rest : List Char} (hrest : ∀ c ∈ rest.head?, p c = false) :
    (padded width n ++ rest).takeWhile p = padded width n := by
  have hall : ∀ c ∈ padded width n, p c = true := by
    intro c hc
    obtain ⟨d, hd, rfl⟩ := mem_padded hc
    exact hp d hd
  rw [List.takeWhile_append_of_pos hall]
  cases rest with
  | nil => simp
  | cons c rest => rw [List.takeWhile_cons_of_neg (by simp [hrest c rfl]), List.append_nil]

end Encoding

namespace Timestamp

/-! ## Numbers and marks -/

/-- `skipBlanks` stops at a character that is no blank. -/
theorem skipBlanks_cons {c : Char} (hc : isBlank c = false) (cs : List Char) :
    skipBlanks (c :: cs) = c :: cs := by
  rw [skipBlanks, List.dropWhile_cons_of_neg (by simp [hc])]

/-- `skipBlanks` stops at `padded`. -/
theorem skipBlanks_padded {width : Nat} (hwidth : 0 < width) (n : Nat) (rest : List Char) :
    skipBlanks (padded width n ++ rest) = padded width n ++ rest := by
  obtain ⟨d, hd, cs, hcs⟩ := exists_padded_cons hwidth n
  rw [hcs, List.cons_append, skipBlanks_cons (decimalChar_spec d hd).2.1]

/-- `digitsUpTo` reads back `padded`. -/
theorem digitsUpTo_padded {width n : Nat} (hwidth : 0 < width) (hn : n < Nat.pow 10 width)
    (rest : List Char) : digitsUpTo width (padded width n ++ rest) = some (n, rest) := by
  have hfront : (padded width n ++ rest).take width = padded width n := by
    rw [List.take_append_of_le_length (by simp), List.take_of_length_le (by simp)]
  have hdigits : (padded width n).takeWhile (fun c => (decimalDigit? c).isSome)
      = padded width n := by
    have hend : (padded width n ++ []).takeWhile (fun c => (decimalDigit? c).isSome)
        = padded width n :=
      takeWhile_padded (fun d hd => by simp [(decimalChar_spec d hd).1]) (by simp)
    rwa [List.append_nil] at hend
  have hnonempty : (padded width n).isEmpty = false := by
    rw [← Bool.not_eq_true, List.isEmpty_iff_length_eq_zero, length_padded]
    exact Nat.ne_of_gt hwidth
  simp only [digitsUpTo, hfront, hdigits, hnonempty, Bool.false_eq_true, if_false, filterMap_padded,
    ofDigits_toDigits 10 width n hn, length_padded]
  rw [List.drop_append_of_le_length (by simp), List.drop_of_length_le (by simp), List.nil_append]

/-- `number` reads back `padded`. -/
theorem number_padded {width n : Nat} (hwidth : 0 < width) (hn : n < Nat.pow 10 width)
    (rest : List Char) : number width (padded width n ++ rest) = some (n, rest) := by
  rw [number, skipBlanks_padded hwidth, digitsUpTo_padded hwidth hn]

/-- `year` reads back `padded` of width 4. -/
theorem year_padded {n : Nat} (hn : n < 10000) (rest : List Char) :
    year (padded 4 n ++ rest) = some ((n : Int), rest) := by
  have hread : digitsUpTo 4 (padded 4 n ++ rest) = some (n, rest) :=
    digitsUpTo_padded (by decide) hn rest
  -- A digit is no sign.
  obtain ⟨d, hd, cs, hcs⟩ := exists_padded_cons (by decide : 0 < 4) n
  have hsign : ∀ d < 10, decimalChar d ≠ '-' ∧ decimalChar d ≠ '+' := by decide
  rw [year, skipBlanks_padded (by decide)]
  split
  · rename_i heq
    rw [hcs] at heq
    exact absurd (List.cons.inj heq).1 (hsign d hd).1
  · rename_i heq
    rw [hcs] at heq
    exact absurd (List.cons.inj heq).1 (hsign d hd).2
  · rw [hread]
    rfl

/-- `mark` takes its character. -/
theorem mark_cons {c : Char} (hc : isBlank c = false) (rest : List Char) :
    mark c (c :: rest) = some rest := by
  rw [mark, skipBlanks_cons hc]
  exact if_pos rfl

/-! ## Fractions -/

/-- `fraction` reads `padded` of up to 9 digits as billionths. -/
theorem fraction_padded {width n : Nat} (hwidth : 0 < width ∧ width ≤ 9)
    (hn : n < Nat.pow 10 width) :
    fraction ('.' :: (padded width n ++ ['Z'])) = some (n * Nat.pow 10 (9 - width), ['Z']) := by
  have hdigits : (padded width n ++ ['Z']).takeWhile (fun c => (decimalDigit? c).isSome)
      = padded width n :=
    takeWhile_padded (fun d hd => by simp [(decimalChar_spec d hd).1]) (by simp [decimalDigit?])
  have hnonempty : (toDigits 10 width n).isEmpty = false := by
    rw [← Bool.not_eq_true, List.isEmpty_iff_length_eq_zero, length_toDigits]
    exact Nat.ne_of_gt hwidth.1
  have hnine : (toDigits 10 width n ++ List.replicate 9 0).take 9
      = toDigits 10 width n ++ List.replicate (9 - width) 0 := by
    rw [List.take_append, length_toDigits, List.take_replicate, List.take_of_length_le,
      Nat.min_eq_left (Nat.sub_le 9 width)]
    rw [length_toDigits]
    exact hwidth.2
  simp only [fraction, hdigits, filterMap_padded, hnonempty, Bool.false_eq_true, if_false, hnine,
    ofDigits_append, ofDigits_zeros, List.length_replicate, Nat.add_zero,
    ofDigits_toDigits 10 width n hn, length_toDigits]
  rw [List.drop_append_of_le_length (by simp), List.drop_of_length_le (by simp), List.nil_append]

/-- `fractionText` is empty for no nanoseconds, and otherwise a point and the fewest digits, of 3, 6
and 9, that are exact. -/
theorem fractionText_spec {nanos : Nat} (hnanos : nanos < 1000000000) :
    nanos = 0 ∧ fractionText nanos = []
      ∨ ∃ width n, (width = 3 ∨ width = 6 ∨ width = 9) ∧ n < Nat.pow 10 width
        ∧ n * Nat.pow 10 (9 - width) = nanos ∧ fractionText nanos = '.' :: padded width n
        ∧ ∀ k ∈ [0, 3, 6, 9], 10 ^ (9 - k) ∣ nanos → width ≤ k := by
  by_cases hzero : nanos = 0
  · exact .inl ⟨hzero, if_pos hzero⟩
  refine .inr ?_
  simp only [fractionText, if_neg hzero, List.forall_mem_cons, List.not_mem_nil, false_imp_iff,
    implies_true, and_true, Nat.reduceSub, Nat.reducePow, Nat.pow_eq]
  by_cases hmillis : nanos % 1000000 = 0
  · refine ⟨3, nanos / 1000000, .inl rfl, ?_, ?_, if_pos hmillis, ?_⟩ <;> omega
  · rw [if_neg hmillis]
    by_cases hmicros : nanos % 1000 = 0
    · refine ⟨6, nanos / 1000, .inr (.inl rfl), ?_, ?_, if_pos hmicros, ?_⟩ <;> omega
    · refine ⟨9, nanos, .inr (.inr rfl), ?_, ?_, if_neg hmicros, ?_⟩ <;> omega

/-- `fraction` reads back `fractionText`. -/
theorem fraction_fractionText {nanos : Nat} (hnanos : nanos < 1000000000) :
    fraction (fractionText nanos ++ ['Z']) = some (nanos, ['Z']) := by
  rcases fractionText_spec hnanos with ⟨rfl, htext⟩ | ⟨width, n, hwidth, hn, rfl, htext, -⟩
  · rw [htext]
    rfl
  · rw [htext, List.cons_append, fraction_padded (by omega) hn]

/-! ## Instants -/

/-- `ofChars?` reads the parts of a timestamp. -/
theorem ofChars?_parts {y month day hour minute second nanos : Nat} (hy : y < 10000)
    (hmonth : month < 100) (hday : day < 100) (hhour : hour < 100) (hminute : minute < 100)
    (hsecond : second < 100) (hnanos : nanos < 1000000000) :
    ofChars? (padded 4 y ++ '-' :: (padded 2 month ++ '-' :: (padded 2 day ++ 'T' ::
        (padded 2 hour ++ ':' :: (padded 2 minute ++ ':' :: (padded 2 second
          ++ (fractionText nanos ++ ['Z'])))))))
      = instant? ⟨y, month, day⟩ hour minute second nanos 0 := by
  have htwo {n : Nat} (hn : n < 100) (rest : List Char) :
      number 2 (padded 2 n ++ rest) = some (n, rest) := number_padded (by decide) hn rest
  have hdash (rest : List Char) : mark '-' ('-' :: rest) = some rest := mark_cons (by decide) rest
  have hcolon (rest : List Char) : mark ':' (':' :: rest) = some rest := mark_cons (by decide) rest
  have hzone : skipBlanks ['Z'] = ['Z'] := skipBlanks_cons (by decide) []
  have hutc : offset ['Z'] = some (0, []) := rfl
  have hend : (skipBlanks []).isEmpty = true := rfl
  simp only [ofChars?, year_padded hy, hdash, htwo hmonth, htwo hday, htwo hhour, hcolon,
    htwo hminute, htwo hsecond, fraction_fractionText hnanos, hzone, hutc, hend, if_true,
    Option.bind_eq_bind, Option.bind_some]

/-- `instant?` of a valid date and time of day is the instant with these seconds. -/
theorem instant?_of_parts {date : Date} {hour minute second : Nat} {t : Instant}
    (hyear : yearInRange date.year = true) (hvalid : date.isValid = true) (hhour : hour < 24)
    (hminute : minute < 60) (hsecond : second < 60) (hnanos : t.nanos < 1000000000)
    (hseconds : (date.toDays - epochDays) * 86400 + (hour * 3600 + minute * 60 + second : Nat)
      = t.seconds)
    (hagain : yearInRange (Date.ofDays (t.seconds / 86400 + epochDays)).year = true) :
    instant? date hour minute second t.nanos 0 = some t := by
  have hgood : (yearInRange date.year && date.isValid && decide (hour < 24) && decide (minute < 60)
      && decide (second ≤ 60)) = true := by
    simp [hyear, hvalid, hhour, hminute, Nat.le_of_lt hsecond]
  have hleap : second ≠ 60 := Nat.ne_of_lt hsecond
  obtain ⟨seconds, nanos, hlt⟩ := t
  simp only [instant?, hgood, Bool.not_true, Bool.false_eq_true, if_false, if_neg hleap,
    Nat.sub_zero, Int.sub_zero, hseconds, hagain, if_true, Nat.zero_mul, Nat.zero_add,
    Nat.mod_eq_of_lt hnanos]

end Timestamp

/-- The instant lies in the years 0 to 9999 and is no leap second. -/
structure Instant.IsCommon (t : Instant) : Prop where
  begun : -62167219200 ≤ t.seconds
  ended : t.seconds < 253402300800
  notLeap : t.nanos < 1000000000

namespace Timestamp

variable {t : Instant}

/-- The bounds of `IsCommon` on the seconds, as bounds on the year. -/
theorem year_bounds_iff :
    0 ≤ (Date.ofDays (t.seconds / 86400 + epochDays)).year
        ∧ (Date.ofDays (t.seconds / 86400 + epochDays)).year < 10000
      ↔ -62167219200 ≤ t.seconds ∧ t.seconds < 253402300800 := by
  have hfirst : Date.daysBeforeYear 0 = 0 := by decide
  have hpast : Date.daysBeforeYear 10000 = 3652425 := by decide
  rw [Date.year_bounds_iff, hfirst, hpast, epochDays]
  omega

/-- `chars` of an `IsCommon` instant, by its parts. -/
theorem chars_eq (ht : t.IsCommon) :
    let date := Date.ofDays (t.seconds / 86400 + epochDays)
    let ofDay := (t.seconds % 86400).toNat
    chars t = padded 4 date.year.toNat ++ '-' :: (padded 2 date.month ++ '-' :: (padded 2 date.day
      ++ 'T' :: (padded 2 (ofDay / 3600) ++ ':' :: (padded 2 (ofDay / 60 % 60)
      ++ ':' :: (padded 2 (ofDay % 60) ++ (fractionText t.nanos ++ ['Z'])))))) := by
  intro date ofDay
  have hyear : 0 ≤ date.year ∧ date.year < 10000 := year_bounds_iff.2 ⟨ht.begun, ht.ended⟩
  have htext : yearText date.year = padded 4 date.year.toNat :=
    if_pos ⟨hyear.1, by omega⟩
  have hleap : t.nanos < 1000000000 := ht.notLeap
  simp only [chars, if_pos hleap, Nat.mod_eq_of_lt hleap, Nat.add_zero, List.append_assoc,
    List.cons_append]
  rw [htext]

/-- `read?` reads back `write` of an `IsCommon` instant. -/
theorem read?_write (ht : t.IsCommon) : read? (write t) = some t := by
  have hyear := year_bounds_iff.2 ⟨ht.begun, ht.ended⟩
  have hrange : yearInRange (Date.ofDays (t.seconds / 86400 + epochDays)).year = true := by
    simp only [yearInRange, Bool.and_eq_true, decide_eq_true_iff]
    omega
  obtain ⟨passed, hpassed, hmonth, hday, -, -⟩ :=
    Date.ofDays_spec (t.seconds / 86400 + epochDays)
  have hlength := Date.monthLengths_le (Date.ofDays (t.seconds / 86400 + epochDays)).year passed
  have hdate := Date.toDays_ofDays (t.seconds / 86400 + epochDays)
  have hvalid := Date.isValid_ofDays (t.seconds / 86400 + epochDays)
  have hyearCast : ((Date.ofDays (t.seconds / 86400 + epochDays)).year.toNat : Int)
      = (Date.ofDays (t.seconds / 86400 + epochDays)).year := Int.toNat_of_nonneg hyear.1
  rw [read?, write, String.toList_ofList, chars_eq ht,
    ofChars?_parts (by omega) (by omega) (by omega) (by omega) (by omega) (by omega) ht.notLeap,
    hyearCast]
  refine instant?_of_parts hrange hvalid (by omega) (by omega) (by omega) ht.notLeap ?_ hrange
  rw [hdate]
  omega

/-! ## The digits after the point -/

/-- The digits after the point of a text. -/
def fractionDigits (s : String) : List Char :=
  ((s.toList.dropWhile (· != '.')).drop 1).takeWhile Char.isDigit

/-- `chars` has no point in front of its fraction. -/
theorem dropWhile_chars (ht : t.IsCommon) :
    (chars t).dropWhile (· != '.') = (fractionText t.nanos ++ ['Z']).dropWhile (· != '.') := by
  have hdigit : ∀ d < 10, (decimalChar d != '.') = true := by decide
  have hpadded (width n : Nat) (rest : List Char) :
      (padded width n ++ rest).dropWhile (· != '.') = rest.dropWhile (· != '.') := by
    refine List.dropWhile_append_of_pos fun c hc => ?_
    obtain ⟨d, hd, rfl⟩ := mem_padded hc
    exact hdigit d hd
  have hmark {c : Char} (hc : c ≠ '.') (rest : List Char) :
      (c :: rest).dropWhile (· != '.') = rest.dropWhile (· != '.') :=
    List.dropWhile_cons_of_pos (bne_iff_ne.2 hc)
  rw [chars_eq ht, hpadded, hmark (by decide), hpadded, hmark (by decide), hpadded,
    hmark (by decide), hpadded, hmark (by decide), hpadded, hmark (by decide), hpadded]

/-- `write` has the fewest digits after the point, of 0, 3, 6 and 9, that are exact. -/
theorem fractionDigits_write (ht : t.IsCommon) :
    (fractionDigits (write t)).length ∈ [0, 3, 6, 9]
      ∧ numeralValue (fractionDigits (write t)) * 10 ^ (9 - (fractionDigits (write t)).length)
        = t.nanos
      ∧ ∀ k ∈ [0, 3, 6, 9], 10 ^ (9 - k) ∣ t.nanos → (fractionDigits (write t)).length ≤ k := by
  have hdigits : fractionDigits (write t)
      = (((fractionText t.nanos ++ ['Z']).dropWhile (· != '.')).drop 1).takeWhile Char.isDigit := by
    rw [fractionDigits, write, String.toList_ofList, dropWhile_chars ht]
  rcases fractionText_spec ht.notLeap with
    ⟨hzero, htext⟩ | ⟨width, n, hwidth, hn, hnanos, htext, hfewest⟩
  · have hnone : fractionDigits (write t) = [] := by
      rw [hdigits, htext]
      rfl
    rw [hnone, hzero]
    exact ⟨by decide, rfl, fun k _ _ => Nat.zero_le k⟩
  · have hsome : fractionDigits (write t) = padded width n := by
      rw [hdigits, htext]
      exact takeWhile_padded (fun d hd => (decimalChar_spec d hd).2.2) (by simp [Char.isDigit])
    rw [hsome, length_padded, numeralValue_padded hn]
    refine ⟨?_, hnanos, hfewest⟩
    rcases hwidth with rfl | rfl | rfl <;> decide

end Timestamp

end NotePager

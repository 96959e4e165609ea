import NotePager.Proofs.Encoding.Integer
import NotePager.Proofs.Json.Settled
import NotePager.Proofs.Json.Text
import NotePager.Proofs.Encoding.Hex

/-!
# Reading back values

A reader recovers a value from a JSON value if it takes it off the text of that one and leaves what
follows, as long as this begins like what follows inside an array or object (`Reader.Recovers`): a
number would go on with further digits. Strings, truth values and numbers are recovered, and with
their parts arrays (`Reader.recovers_list`) and objects (`Reader.recovers_record`), where members
that have no value are left out (`Reader.Fills.optional`).
-/

namespace NotePager.Json

open Encoding Text

/-! ## Digits -/

/-- The text of a natural number, as bytes. -/
def digitBytes (n : Nat) : List UInt8 := (Nat.toDigits 10 n).map fun c => UInt8.ofNat c.toNat

/-- `Nat.toDigits` are ASCII digits. -/
theorem isDigit_toDigits {n : Nat} {c : Char} (h : c ∈ Nat.toDigits 10 n) :
    48 ≤ c.toNat ∧ c.toNat ≤ 57 := by
  have hdigit : c.isDigit = true := Nat.isDigit_of_mem_toDigits (by decide) (by decide) h
  rwa [Char.isDigit, Bool.and_eq_true, decide_eq_true_iff, decide_eq_true_iff] at hdigit

/-- The byte of a digit has the code of its character. -/
theorem toNat_digitByte {n : Nat} {c : Char} (h : c ∈ Nat.toDigits 10 n) :
    (UInt8.ofNat c.toNat).toNat = c.toNat := by
  have hrange := isDigit_toDigits h
  exact UInt8.toNat_ofNat_of_lt' (Nat.lt_of_le_of_lt hrange.2 (by decide))

/-- `Text.utf8` of `Nat.toDigits` is `digitBytes`. -/
theorem utf8_repr (n : Nat) : utf8 (String.ofList (Nat.toDigits 10 n)) = digitBytes n := by
  rw [utf8_ofList, digitBytes, List.map_eq_flatMap]
  refine List.flatMap_congr fun c hc => ?_
  have hascii := utf8EncodeChar_ofNat c.toNat (by have := isDigit_toDigits hc; omega)
  rwa [Char.ofNat_toNat] at hascii

/-- `Json.bytes` of a number is `digitBytes`. -/
theorem bytes_number (n : Nat) : (Json.number n).bytes = digitBytes n := by
  have htext : toString (n : Int) = String.ofList (Nat.toDigits 10 n) := rfl
  rw [bytes, htext, utf8_repr]

/-- `digitBytes` are digits. -/
theorem isDigitByte_digitBytes {n : Nat} {b : UInt8} (h : b ∈ digitBytes n) :
    isDigitByte b = true := by
  obtain ⟨c, hc, rfl⟩ := List.mem_map.1 h
  rw [isDigitByte, Bool.and_eq_true, decide_eq_true_iff, decide_eq_true_iff, UInt8.le_iff_toNat_le,
    UInt8.le_iff_toNat_le, toNat_digitByte hc]
  exact isDigit_toDigits hc

/-- `digitsValue` reads back `digitBytes`. -/
theorem digitsValue_digitBytes (n : Nat) : digitsValue (digitBytes n) = n := by
  have hvalues : (digitBytes n).map (fun b => b.toNat - 48)
      = (Nat.toDigits 10 n).map fun c => c.toNat - 48 := by
    rw [digitBytes, List.map_map]
    refine List.map_congr_left fun c hc => ?_
    rw [Function.comp_apply, toNat_digitByte hc]
  have hfold : numeralValue (Nat.toDigits 10 n) = Nat.ofDigitChars 10 (Nat.toDigits 10 n) 0 := by
    rw [numeralValue_eq, valueOnto, Nat.ofDigitChars_eq_foldl]
    simp only [Nat.mul_comm 10]
    rfl
  rw [digitsValue, hvalues, ← numeralValue, hfold, Nat.ofDigitChars_ten_toDigits]

/-- `Nat.toDigits` begin with a zero only for zero. -/
theorem toDigits_cons (n : Nat) :
    ∃ c cs, Nat.toDigits 10 n = c :: cs ∧ (c = '0' → n = 0) := by
  induction n using Nat.strongRecOn with
  | ind n ih =>
    rw [Nat.toDigits_eq_if (by decide)]
    by_cases hn : n < 10
    · have hdigit : ∀ d < 10, Nat.digitChar d = '0' → d = 0 := by decide
      rw [if_pos hn]
      exact ⟨_, [], rfl, hdigit n hn⟩
    · rw [if_neg hn]
      obtain ⟨c, cs, hcs, hzero⟩ := ih (n / 10) (by omega)
      rw [hcs]
      exact ⟨c, _, rfl, fun hc => by have := hzero hc; omega⟩

/-- `digitBytes` begin with a zero only for zero. -/
theorem digitBytes_cons (n : Nat) :
    ∃ b bs, digitBytes n = b :: bs ∧ isDigitByte b = true ∧ (b = 0x30 → n = 0) := by
  obtain ⟨c, cs, hcs, hzero⟩ := toDigits_cons n
  have hc : c ∈ Nat.toDigits 10 n := hcs ▸ List.mem_cons_self
  have hbytes : digitBytes n = UInt8.ofNat c.toNat :: cs.map fun c => UInt8.ofNat c.toNat := by
    rw [digitBytes, hcs, List.map_cons]
  refine ⟨_, _, hbytes, isDigitByte_digitBytes (hbytes ▸ List.mem_cons_self), fun hb => hzero ?_⟩
  have hnat := toNat_digitByte hc
  rw [hb] at hnat
  rw [← Char.ofNat_toNat c, ← hnat]
  rfl

/-! ## Numbers -/

/-- What follows a value inside an array or object, or nothing. -/
def Ends (rest : List UInt8) : Prop := ∀ b ∈ rest.head?, b = 0x2C ∨ b = 0x5D ∨ b = 0x7D

variable {rest : List UInt8}

theorem Ends.cases (h : Ends rest) :
    rest = [] ∨ ∃ b bs, rest = b :: bs ∧ (b = 0x2C ∨ b = 0x5D ∨ b = 0x7D) := by
  cases rest with
  | nil => exact .inl rfl
  | cons b bs => exact .inr ⟨b, bs, rfl, h b rfl⟩

/-- `scanDigits` takes `digitBytes` in front of `Ends`. -/
theorem scanDigits_digitBytes (n : Nat) (hrest : Ends rest) :
    scanDigits (digitBytes n ++ rest) = .ok (digitBytes n, rest) := by
  have hall : ∀ b ∈ digitBytes n, isDigitByte b = true := fun b => isDigitByte_digitBytes
  have hnone : rest.takeWhile isDigitByte = [] ∧ rest.dropWhile isDigitByte = rest := by
    rcases hrest.cases with rfl | ⟨b, bs, rfl, rfl | rfl | rfl⟩ <;> exact ⟨rfl, rfl⟩
  have htake : (digitBytes n ++ rest).takeWhile isDigitByte = digitBytes n := by
    rw [List.takeWhile_append_of_pos hall, hnone.1, List.append_nil]
  have hdrop : (digitBytes n ++ rest).dropWhile isDigitByte = rest := by
    rw [List.dropWhile_append_of_pos hall, hnone.2]
  obtain ⟨b, bs, hbytes, hb, -⟩ := digitBytes_cons n
  rw [hbytes, List.cons_append] at htake hdrop ⊢
  rw [scanDigits, if_pos hb, htake, hdrop]

/-- `scanWhole` takes `digitBytes` in front of `Ends`. -/
theorem scanWhole_digitBytes (n : Nat) (hrest : Ends rest) :
    scanWhole (digitBytes n ++ rest) = .ok (digitBytes n, rest) := by
  rcases Nat.eq_zero_or_pos n with rfl | hn
  · rcases hrest.cases with rfl | ⟨b, bs, rfl, rfl | rfl | rfl⟩ <;> rfl
  · have hscan := scanDigits_digitBytes n hrest
    obtain ⟨b, bs, hbytes, -, hzero⟩ := digitBytes_cons n
    rw [hbytes, List.cons_append] at hscan ⊢
    rw [scanWhole]
    · exact hscan
    · intro _ _ heq
      exact absurd (hzero (List.cons.inj heq).1) (Nat.ne_of_gt hn)

/-- `scanNumber` takes `digitBytes` of a number of 64 bits in front of `Ends`. -/
theorem scanNumber_digitBytes {n : Nat} (hn : n < UInt64.size) (hrest : Ends rest) :
    scanNumber (digitBytes n ++ rest) = .ok (⟨false, digitBytes n, [], none⟩, rest) := by
  have hfraction : scanFraction rest = .ok ([], rest) := by
    rcases hrest.cases with rfl | ⟨b, bs, rfl, rfl | rfl | rfl⟩ <;> rfl
  have hexponent : scanExponent rest = .ok (none, rest) := by
    rcases hrest.cases with rfl | ⟨b, bs, rfl, rfl | rfl | rfl⟩ <;> rfl
  have hlength : (digitBytes n).length ≤ 20 := by
    rw [digitBytes, List.length_map]
    exact (Nat.length_toDigits_le_iff (by decide) (by decide)).2 (Nat.lt_trans hn (by decide))
  have hsmall : NumberText.overflows ⟨false, digitBytes n, [], none⟩ = false := by
    have hdropped := (List.dropWhile_sublist (l := digitBytes n) (· == 0x30)).length_le
    simp only [NumberText.overflows, List.append_nil, List.length_nil, Option.getD_none]
    rw [if_pos]
    simp only [Bool.or_eq_true, decide_eq_true_iff]
    omega
  have hwhole := scanWhole_digitBytes n hrest
  rw [scanNumber]
  · simp only [hwhole, hfraction, hexponent, bind, Except.bind, hsmall, Bool.false_eq_true,
      if_false]
  · -- A digit is no minus.
    intro _ heq
    obtain ⟨b, bs, hbytes, hb, -⟩ := digitBytes_cons n
    rw [hbytes, List.cons_append] at heq
    rw [(List.cons.inj heq).1] at hb
    cases hb

/-! ## The first byte of a value -/

/-- `Json.bytes` begins with neither a blank nor a closing bracket, and with an n only for
`null`. -/
theorem exists_bytes_cons (j : Json) :
    ∃ b bs, j.bytes = b :: bs ∧ isSpace b = false ∧ b ≠ 0x5D ∧ (b = 0x6E → j = .null) := by
  cases j with
  | null => exact ⟨_, _, rfl, rfl, by decide, fun _ => rfl⟩
  | bool b => cases b <;> exact ⟨_, _, rfl, rfl, by decide, fun h => absurd h (by decide)⟩
  | text s => exact ⟨0x22, _, rfl, rfl, by decide, fun h => absurd h (by decide)⟩
  | array items => exact ⟨0x5B, _, by rw [bytes], rfl, by decide, fun h => absurd h (by decide)⟩
  | object members => exact ⟨0x7B, _, by rw [bytes], rfl, by decide, fun h => absurd h (by decide)⟩
  | number n =>
    cases n with
    | ofNat n =>
      obtain ⟨b, bs, hbytes, hb, -⟩ := digitBytes_cons n
      have hother {c : UInt8} (hc : isDigitByte c = false) : b ≠ c := by
        rintro rfl
        rw [hb] at hc
        cases hc
      refine ⟨b, bs, (bytes_number n).trans hbytes, ?_, hother rfl, fun h => absurd h (hother rfl)⟩
      simp [isSpace, hother (rfl : isDigitByte 0x20 = false),
        hother (rfl : isDigitByte 0x0A = false), hother (rfl : isDigitByte 0x0D = false),
        hother (rfl : isDigitByte 0x09 = false)]
    | negSucc n =>
      have htext : toString (Int.negSucc n) = "-" ++ Nat.repr (n + 1) := rfl
      exact ⟨0x2D, _, by rw [bytes, htext, utf8_append]; rfl, rfl, by decide,
        fun h => absurd h (by decide)⟩

/-- `skipSpaces` skips nothing in front of `Json.bytes`. -/
theorem skipSpaces_bytes (j : Json) (rest : List UInt8) :
    skipSpaces (j.bytes ++ rest) = j.bytes ++ rest := by
  obtain ⟨b, bs, hbytes, hspace, -, -⟩ := j.exists_bytes_cons
  rw [hbytes, List.cons_append, skipSpaces, List.dropWhile_cons_of_neg (by simp [hspace])]

/-! ## Values in a row -/

/-- The texts of further items, each behind its comma. -/
def furtherItems (items : List Json) : List UInt8 := items.flatMap fun j => 0x2C :: j.bytes

/-- The texts of further members, each behind its comma. -/
def furtherMembers (members : List (String × Json)) : List UInt8 :=
  members.flatMap fun m => 0x2C :: (quoted m.1 ++ 0x3A :: m.2.bytes)

/-- `itemsBytes` by the first item and `furtherItems`. -/
theorem itemsBytes_cons (j : Json) (items : List Json) :
    itemsBytes (j :: items) = j.bytes ++ furtherItems items := by
  induction items generalizing j with
  | nil => rw [itemsBytes, furtherItems, List.flatMap_nil, List.append_nil]
  | cons j' items ih => simp [itemsBytes, ih j', furtherItems]

/-- `membersBytes` by the first member and `furtherMembers`. -/
theorem membersBytes_cons (key : String) (j : Json) (members : List (String × Json)) :
    membersBytes ((key, j) :: members)
      = quoted key ++ 0x3A :: (j.bytes ++ furtherMembers members) := by
  induction members generalizing key j with
  | nil => rw [membersBytes, furtherMembers, List.flatMap_nil, List.append_nil]
  | cons m members ih =>
    obtain ⟨key', j'⟩ := m
    simp [membersBytes, ih key' j', furtherMembers]

/-- Values with commas in front of them, and `Ends` behind, are `Ends`. -/
theorem ends_flatMap {f : α → List UInt8} {rest : List UInt8} (items : List α) (hrest : Ends rest) :
    Ends (items.flatMap (fun a => 0x2C :: f a) ++ rest) := by
  cases items with
  | nil => exact hrest
  | cons a items => exact fun b hb => .inl (Option.some.inj hb).symm

/-- `furtherItems` and a closing bracket are `Ends`. -/
theorem ends_furtherItems (items : List Json) (rest : List UInt8) :
    Ends (furtherItems items ++ 0x5D :: rest) :=
  ends_flatMap items fun _ hb => .inr (.inl (Option.some.inj hb).symm)

/-- `furtherMembers` and a closing brace are `Ends`. -/
theorem ends_furtherMembers (members : List (String × Json)) (rest : List UInt8) :
    Ends (furtherMembers members ++ 0x7D :: rest) :=
  ends_flatMap members fun _ hb => .inr (.inr (Option.some.inj hb).symm)

/-- Values with commas in front of them have at least as many bytes as there are values. -/
theorem length_le_length_flatMap {f : α → List UInt8} (items : List α) :
    items.length ≤ (items.flatMap fun a => 0x2C :: f a).length := by
  induction items with
  | nil => exact Nat.le_refl 0
  | cons a items ih =>
    rw [List.flatMap_cons, List.length_append, List.length_cons, List.length_cons]
    omega

namespace Reader

/-- The reader takes the value off the text of the JSON value, and leaves what follows. -/
def Recovers (read : Reader α) (j : Json) (v : α) : Prop :=
  ∀ ⦃rest⦄, Ends rest → read (j.bytes ++ rest) = .ok (v, rest)

variable {read : Reader α} {j : Json} {v : α}

/-- `Reader.run` of a reader that `Recovers` a value reads it. -/
theorem Recovers.run (h : read.Recovers j v) : read.run j.bytes = .ok v := by
  have hread : read j.bytes = .ok (v, []) := by
    have hall := @h [] fun _ hb => nomatch hb
    rwa [List.append_nil] at hall
  rw [Reader.run, hread]
  rfl

/-- `Reader.string` recovers every string. -/
theorem recovers_string (s : String) : string.Recovers (.text s) s := by
  intro rest _
  rw [bytes]
  exact string_quoted s rest

/-- `Reader.boolean` recovers both truth values. -/
theorem recovers_boolean (b : Bool) : boolean.Recovers (.bool b) b := by
  intro rest _
  cases b <;> rfl

/-- `Reader.natural` recovers every number below its bound. -/
theorem recovers_natural {bound n : Nat} (hn : n < bound) (hbound : bound ≤ UInt64.size) :
    (natural bound).Recovers (.number n) n := by
  intro rest hrest
  have hscan := scanNumber_digitBytes (Nat.lt_of_lt_of_le hn hbound) hrest
  have hfront := skipSpaces_bytes (.number n) rest
  obtain ⟨b, bs, hbytes, hb, -⟩ := digitBytes_cons n
  rw [bytes_number, hbytes, List.cons_append] at hfront ⊢
  rw [hbytes, List.cons_append, ← hbytes] at hscan
  simp only [natural, hfront, hb, if_true, hscan, digitsValue_digitBytes, List.isEmpty_nil,
    Option.isNone_none, decide_eq_true hn, Bool.and_self]

/-- `Recovers` through `Reader.filterMap`. -/
theorem Recovers.filterMap (h : read.Recovers j v) {f : α → Option β} {w : β} (hw : f v = some w) :
    (read.filterMap f).Recovers j w := by
  intro rest hrest
  simp only [Reader.filterMap, h hrest, hw]

/-- `Recovers` through `Reader.nullable`, for a value that is not `null`. -/
theorem Recovers.nullable (h : read.Recovers j v) (hj : j ≠ .null) :
    (nullable read).Recovers j (some v) := by
  intro rest hrest
  obtain ⟨b, bs, hbytes, -, -, hnull⟩ := j.exists_bytes_cons
  have hread := h hrest
  have hfront := j.skipSpaces_bytes rest
  rw [hbytes, List.cons_append] at hfront hread ⊢
  rw [Reader.nullable, hfront]
  split
  · rename_i heq
    exact absurd (hnull (List.cons.inj heq).1) hj
  · rw [hread]
    rfl

/-- `Recovers` through `Field.into`. -/
theorem Recovers.into (h : read.Recovers j v) (key : String) (set : α → σ → σ) (record : σ) :
    ((Field.into key read set).read record).Recovers j (set v record) := by
  intro rest hrest
  simp only [Field.into, h hrest, Except.map]

/-! ## Arrays -/

/-- `nextItem` at the first item. -/
theorem nextItem_first (j : Json) (rest : List UInt8) :
    nextItem true (j.bytes ++ rest) = .ok (some (j.bytes ++ rest)) := by
  have hfront := j.skipSpaces_bytes rest
  obtain ⟨b, bs, hbytes, -, hclose, -⟩ := j.exists_bytes_cons
  rw [hbytes, List.cons_append] at hfront ⊢
  rw [nextItem, hfront]
  simp

/-- `nextItem` at a comma and a further item. -/
theorem nextItem_further (j : Json) (rest : List UInt8) :
    nextItem false (0x2C :: (j.bytes ++ rest)) = .ok (some (j.bytes ++ rest)) := by
  have hcomma : skipSpaces (0x2C :: (j.bytes ++ rest)) = 0x2C :: (j.bytes ++ rest) := rfl
  have hfront := j.skipSpaces_bytes rest
  obtain ⟨b, bs, hbytes, -, hclose, -⟩ := j.exists_bytes_cons
  rw [hbytes, List.cons_append] at hfront hcomma ⊢
  rw [nextItem, hcomma]
  simp [hfront, hclose]

/-- `itemsOnto` reads `furtherItems` up to the closing bracket. -/
theorem itemsOnto_further {items : List Json} {vs : List α}
    (h : List.Forall₂ read.Recovers items vs) {before : List α} (hbefore : before.isEmpty = false)
    {fuel : Nat} (hfuel : items.length < fuel) (rest : List UInt8) :
    itemsOnto read fuel before (furtherItems items ++ 0x5D :: rest)
      = .ok (before.reverse ++ vs, 0x5D :: rest) := by
  induction h generalizing before fuel with
  | nil =>
    obtain ⟨fuel, rfl⟩ : ∃ less, fuel = less + 1 := ⟨fuel - 1, by omega⟩
    rw [itemsOnto, List.append_nil]
    rfl
  | @cons j v items vs hj _ ih =>
    rw [List.length_cons] at hfuel
    obtain ⟨fuel, rfl⟩ : ∃ less, fuel = less + 1 := ⟨fuel - 1, by omega⟩
    have hnext : nextItem before.isEmpty (furtherItems (j :: items) ++ 0x5D :: rest)
        = .ok (some (j.bytes ++ (furtherItems items ++ 0x5D :: rest))) := by
      rw [hbefore, furtherItems, List.flatMap_cons, List.cons_append, List.cons_append,
        List.append_assoc]
      exact nextItem_further j _
    have hnonempty : (v :: before).isEmpty = false := rfl
    have hrest := ih hnonempty (Nat.lt_of_succ_lt_succ hfuel)
    rw [List.reverse_cons, List.append_assoc] at hrest
    rw [itemsOnto]
    have hitem := hj (ends_furtherItems items rest)
    exact bind_eq_ok_iff.2 ⟨_, hnext, bind_eq_ok_iff.2 ⟨_, hitem, hrest⟩⟩

/-- `itemsOnto` reads `itemsBytes` up to the closing bracket. -/
theorem itemsOnto_items {items : List Json} {vs : List α}
    (h : List.Forall₂ read.Recovers items vs) {fuel : Nat} (hfuel : items.length < fuel)
    (rest : List UInt8) :
    itemsOnto read fuel [] (itemsBytes items ++ 0x5D :: rest) = .ok (vs, 0x5D :: rest) := by
  obtain ⟨fuel, rfl⟩ : ∃ less, fuel = less + 1 := ⟨fuel - 1, by omega⟩
  rw [itemsOnto]
  cases h with
  | nil => rfl
  | @cons j v items vs hj hrest =>
    have hnonempty : [v].isEmpty = false := rfl
    have hfurther := itemsOnto_further hrest hnonempty (Nat.lt_of_succ_lt_succ hfuel) rest
    rw [itemsBytes_cons, List.append_assoc]
    have hitem := hj (ends_furtherItems items rest)
    exact bind_eq_ok_iff.2 ⟨_, nextItem_first j _, bind_eq_ok_iff.2 ⟨_, hitem, hfurther⟩⟩

/-- `itemsBytes` has at least as many bytes as there are items. -/
theorem length_le_itemsBytes (items : List Json) (rest : List UInt8) :
    items.length ≤ (itemsBytes items ++ rest).length := by
  cases items with
  | nil => exact Nat.zero_le _
  | cons j items =>
    obtain ⟨b, bs, hbytes, -⟩ := j.exists_bytes_cons
    have hfurther : items.length ≤ (furtherItems items).length := length_le_length_flatMap items
    simp only [itemsBytes_cons, hbytes, List.length_append, List.length_cons]
    omega

/-- `Reader.list` recovers the values of its items. -/
theorem recovers_list {items : List Json} {vs : List α}
    (h : List.Forall₂ read.Recovers items vs) : (list read).Recovers (.array items) vs := by
  intro rest _
  have hbytes : (Json.array items).bytes ++ rest
      = 0x5B :: (itemsBytes items ++ 0x5D :: rest) := by simp [bytes]
  have hfuel := Nat.lt_succ_of_le (length_le_itemsBytes items (0x5D :: rest))
  have hitems := itemsOnto_items h hfuel rest
  rw [hbytes, list]
  exact bind_eq_ok_iff.2 ⟨_, hitems, rfl⟩

/-! ## Records -/

section

variable {fields : List (Field σ)} {record record' : σ} {seen : List String}
  {ms : List (String × Json)}

/-- The fields read the members one after another, no key comes twice, and so the one record turns
into the other. `seen` are the keys of the fields that were read before. -/
inductive Fills (fields : List (Field σ)) :
    List String → σ → List (String × Json) → σ → Prop
  | nil {seen : List String} {record : σ} : Fills fields seen record [] record
  | cons {seen : List String} {record record' record'' : σ} {key : String} {field : Field σ}
      {j : Json} {ms : List (String × Json)}
      (hfield : (fields.find? fun f => f.key == key) = some field)
      (hseen : seen.contains key = false)
      (hread : (field.read record).Recovers j record')
      (hrest : Fills fields (key :: seen) record' ms record'') :
      Fills fields seen record ((key, j) :: ms) record''

/-- `Fills` is antitone in the keys that were read before. -/
theorem Fills.mono (h : Fills fields seen record ms record') {seen' : List String}
    (hsub : ∀ key, seen.contains key = false → seen'.contains key = false) :
    Fills fields seen' record ms record' := by
  induction h generalizing seen' with
  | nil => exact .nil
  | cons hfield hseen hread _ ih =>
    refine .cons hfield (hsub _ hseen) hread (ih fun key hkey => ?_)
    rw [List.contains_cons, Bool.or_eq_false_iff] at hkey ⊢
    exact ⟨hkey.1, hsub key hkey.2⟩

/-- `Fills` with a member of a field `Field.into`. -/
theorem Fills.into {key : String} {v : α} {set : α → σ → σ}
    (hfield : (fields.find? fun f => f.key == key) = some (.into key read set))
    (hseen : seen.contains key = false) (hread : read.Recovers j v)
    (hrest : Fills fields (key :: seen) (set v record) ms record') :
    Fills fields seen record ((key, j) :: ms) record' :=
  .cons hfield hseen (hread.into key set record) hrest

/-- `Fills` with an optional member, which leaves the record unchanged when it is absent. -/
theorem Fills.optional {key : String} {v : Option α} {f : α → Json} {set : Option α → σ → σ}
    (hfield : (fields.find? fun f => f.key == key) = some (.into key (Reader.nullable read) set))
    (hseen : seen.contains key = false)
    (hread : ∀ a ∈ v, read.Recovers (f a) a ∧ f a ≠ .null)
    (hnone : set none record = record)
    (hrest : Fills fields (key :: seen) (set v record) ms record') :
    Fills fields seen record (Json.optional key (v.map f) ++ ms) record' := by
  cases v with
  | none =>
    rw [hnone] at hrest
    refine hrest.mono fun key' hkey => ?_
    rw [List.contains_cons, Bool.or_eq_false_iff] at hkey
    exact hkey.2
  | some a =>
    obtain ⟨hrecovers, hnull⟩ := hread a rfl
    exact .into hfield hseen (hrecovers.nullable hnull) hrest

/-- `Fills` with an optional member at the end. -/
theorem Fills.optional_last {key : String} {v : Option α} {f : α → Json} {set : Option α → σ → σ}
    (hfield : (fields.find? fun f => f.key == key) = some (.into key (Reader.nullable read) set))
    (hseen : seen.contains key = false)
    (hread : ∀ a ∈ v, read.Recovers (f a) a ∧ f a ≠ .null)
    (hnone : set none record = record) (hlast : set v record = record') :
    Fills fields seen record (Json.optional key (v.map f)) record' := by
  rw [← List.append_nil (Json.optional key (v.map f))]
  exact .optional hfield hseen hread hnone (hlast ▸ .nil)

/-- `Reader.members` reads `furtherMembers` that fill the record, up to the closing brace. -/
theorem Fills.members_further (h : Fills fields seen record ms record') {fuel : Nat}
    (hfuel : ms.length < fuel) (rest : List UInt8) :
    members fields fuel seen false record (furtherMembers ms ++ 0x7D :: rest)
      = .ok (record', 0x7D :: rest) := by
  induction h generalizing fuel with
  | nil =>
    obtain ⟨fuel, rfl⟩ : ∃ less, fuel = less + 1 := ⟨fuel - 1, by omega⟩
    exact members_end false fuel
  | @cons seen record record' record'' key field j ms hfield hseen hread _ ih =>
    rw [List.length_cons] at hfuel
    obtain ⟨fuel, rfl⟩ : ∃ less, fuel = less + 1 := ⟨fuel - 1, by omega⟩
    have hbytes : furtherMembers ((key, j) :: ms) ++ 0x7D :: rest
        = 0x2C :: (quoted key ++ 0x3A :: (j.bytes ++ (furtherMembers ms ++ 0x7D :: rest))) := by
      simp [furtherMembers]
    rw [hbytes, Reader.members_further hfield hseen (hread (ends_furtherMembers ms rest))]
    exact ih (Nat.lt_of_succ_lt_succ hfuel)

/-- `Reader.members` reads `membersBytes` that fill the record, up to the closing brace. -/
theorem Fills.members_members (h : Fills fields [] record ms record') {fuel : Nat}
    (hfuel : ms.length < fuel) (rest : List UInt8) :
    members fields fuel [] true record (membersBytes ms ++ 0x7D :: rest)
      = .ok (record', 0x7D :: rest) := by
  obtain ⟨fuel, rfl⟩ : ∃ less, fuel = less + 1 := ⟨fuel - 1, by omega⟩
  cases h with
  | nil => exact members_end true fuel
  | @cons _ _ record' _ key field j ms hfield hseen hread hrest =>
    have hbytes : membersBytes ((key, j) :: ms) ++ 0x7D :: rest
        = quoted key ++ 0x3A :: (j.bytes ++ (furtherMembers ms ++ 0x7D :: rest)) := by
      simp [membersBytes_cons]
    rw [hbytes, members_first hfield hseen (hread (ends_furtherMembers ms rest))]
    exact hrest.members_further (Nat.lt_of_succ_lt_succ hfuel) rest

/-- `membersBytes` has at least as many bytes as there are members. -/
theorem length_le_membersBytes (ms : List (String × Json)) (rest : List UInt8) :
    ms.length ≤ (membersBytes ms ++ rest).length := by
  cases ms with
  | nil => exact Nat.zero_le _
  | cons m ms =>
    obtain ⟨key, j⟩ := m
    have hfurther : ms.length ≤ (furtherMembers ms).length := length_le_length_flatMap ms
    simp only [membersBytes_cons, List.length_append, List.length_cons]
    omega

/-- `Reader.record` recovers a record from members that fill it. -/
theorem recovers_record {start state : σ} {finish : σ → Option α} {v : α}
    (h : Fills fields [] start ms state) (hfinish : finish state = some v) :
    (Reader.record fields start finish).Recovers (.object ms) v := by
  intro rest _
  have hbytes : (Json.object ms).bytes ++ rest = 0x7B :: (membersBytes ms ++ 0x7D :: rest) := by
    simp [bytes]
  have hfuel := Nat.lt_succ_of_le (length_le_membersBytes ms (0x7D :: rest))
  have hmembers := h.members_members hfuel rest
  rw [hbytes, Reader.record]
  refine bind_eq_ok_iff.2 ⟨_, hmembers, ?_⟩
  simp only [hfinish]
  rfl

end

end Reader

end NotePager.Json

import Mathlib.Data.List.SplitBy
import NotePager.Http.QueryString
import NotePager.Proofs.Encoding.Hex

/-!
# What a query string leaves alone

A query string turns some characters of its keys and values into others. Letters, digits, hyphens
and underscores (`IsPlain`) are not among them: a pair of texts of these comes out of a query string
as it was put in (`queryPairs_plain`), wherever it stands among other pairs
(`queryPairs_intercalate`).
-/

namespace NotePager

open Encoding Text

/-- `Percent.decode` leaves bytes without a percent sign unchanged. -/
theorem Encoding.Percent.decode_of_not_mem {bytes : List UInt8} (h : 0x25 ∉ bytes) :
    decode bytes = bytes := by
  have honto (read : List UInt8) : decodeOnto read bytes = read.reverse ++ bytes := by
    induction bytes generalizing read with
    | nil => simp [decodeOnto]
    | cons b bytes ih =>
      have hb : b ≠ 0x25 := fun heq => h (heq ▸ .head _)
      have hstep : decodeOnto read (b :: bytes) = decodeOnto (b :: read) bytes := by
        rw [decodeOnto]
        exact fun _ _ _ heq => absurd heq hb
      rw [hstep, ih (fun hmem => h (.tail _ hmem)), List.reverse_cons, List.append_assoc,
        List.singleton_append]
  exact honto []

namespace Http

/-! ## Plain characters -/

/-- A letter, a digit, a hyphen or an underscore. -/
def IsPlain (c : Char) : Prop := c.isAlphanum = true ∨ c = '-' ∨ c = '_'

instance (c : Char) : Decidable (IsPlain c) := inferInstanceAs (Decidable (_ ∨ _))

/-- The byte of a plain character. -/
def plainByte (c : Char) : UInt8 := UInt8.ofNat c.toNat

/-- `IsPlain` characters are ASCII. -/
theorem IsPlain.toNat_lt {c : Char} (h : IsPlain c) : c.toNat < 128 := by
  rcases h with h | rfl | rfl
  · exact toNat_lt_of_isAlphanum h
  · decide
  · decide

/-- `String.utf8EncodeChar` of an `IsPlain` character is its `plainByte`, an ASCII byte that is no
percent sign, ampersand, plus or equals sign. -/
theorem IsPlain.byte {c : Char} (h : IsPlain c) :
    String.utf8EncodeChar c = [plainByte c] ∧ plainByte c < 0x80
      ∧ plainByte c ∉ [0x25, 0x26, 0x2B, 0x3D] := by
  have htable : ∀ n < 128, IsPlain (Char.ofNat n) →
      String.utf8EncodeChar (Char.ofNat n) = [plainByte (Char.ofNat n)]
      ∧ plainByte (Char.ofNat n) < 0x80 ∧ plainByte (Char.ofNat n) ∉ [0x25, 0x26, 0x2B, 0x3D] := by
    decide +kernel
  have hc := htable c.toNat h.toNat_lt
  rw [Char.ofNat_toNat] at hc
  exact hc h

/-- `nextByte` of a `plainByte` completes its character. -/
theorem nextByte_plain {c : Char} (h : IsPlain c) : nextByte none (plainByte c) = ([c], none) := by
  have hcode : (plainByte c).toNat = c.toNat := by
    have hlt := h.toNat_lt
    rw [plainByte, UInt8.toNat_ofNat']
    omega
  rw [nextByte, firstByte, if_pos h.byte.2.1, hcode, Char.ofNat_toNat]

/-- What one more byte adds to the characters read so far, which stand in reverse, and where it
leaves the reader. -/
def lossyStep (read : List Char × Utf8State) (b : UInt8) : List Char × Utf8State :=
  ((nextByte read.2 b).1.reverse ++ read.1, (nextByte read.2 b).2)

/-- `lossyStep` along `plainByte`s adds their characters. -/
theorem foldl_lossyStep_plain {cs : List Char} (hcs : ∀ c ∈ cs, IsPlain c) (out : List Char) :
    (cs.map plainByte).foldl lossyStep (out, none) = (cs.reverse ++ out, none) := by
  induction cs generalizing out with
  | nil => rfl
  | cons c cs ih =>
    obtain ⟨hc, hcs⟩ := List.forall_mem_cons.1 hcs
    have hstep : lossyStep (out, none) (plainByte c) = (c :: out, none) := by
      rw [lossyStep, nextByte_plain hc, List.reverse_singleton, List.singleton_append]
    rw [List.map_cons, List.foldl_cons, hstep, ih hcs, List.reverse_cons, List.append_assoc,
      List.singleton_append]

section
variable {s : String} (h : ∀ c ∈ s.toList, IsPlain c)
include h

/-- `Text.utf8` of an `IsPlain` text is its `plainByte`s. -/
theorem utf8_plain : utf8 s = s.toList.map plainByte := by
  rw [utf8_eq_flatMap, List.map_eq_flatMap]
  exact List.flatMap_congr fun c hc => (h c hc).byte.1

/-- `Text.utf8` of an `IsPlain` text has no percent sign, ampersand, plus or equals sign. -/
theorem not_mem_utf8_plain {b : UInt8} (hb : b ∈ [0x25, 0x26, 0x2B, 0x3D]) : b ∉ utf8 s := by
  intro hmem
  rw [utf8_plain h] at hmem
  obtain ⟨c, hc, rfl⟩ := List.mem_map.1 hmem
  exact (h c hc).byte.2.2 hb

/-- `ofUtf8Lossy` reads back an `IsPlain` text. -/
theorem ofUtf8Lossy_plain : ofUtf8Lossy (utf8 s) = s := by
  have hread : ofUtf8Lossy (s.toList.map plainByte)
      = String.ofList (s.toList.reverse ++ []).reverse :=
    congrArg (fun read : List Char × Utf8State =>
      String.ofList (if read.2.isSome then replacement :: read.1 else read.1).reverse)
      (foldl_lossyStep_plain h [])
  rw [utf8_plain h, hread, List.append_nil, List.reverse_reverse, String.ofList_toList]

/-- `formText` reads back an `IsPlain` text. -/
theorem formText_plain : formText (utf8 s) = s := by
  have hplus : (utf8 s).map (fun b => if b == 0x2B then 0x20 else b) = utf8 s := by
    refine (List.map_congr_left fun b hb => ?_).trans (List.map_id _)
    have hne : b ≠ 0x2B := fun heq => not_mem_utf8_plain h (by simp) (heq ▸ hb)
    rw [beq_eq_false_iff_ne.2 hne]
    rfl
  rw [formText, hplus, Percent.decode_of_not_mem (not_mem_utf8_plain h (by simp)),
    ofUtf8Lossy_plain h]

end

/-- `Text.utf8` of a key and a value with an equals sign. -/
theorem utf8_pair (key value : String) :
    utf8 (key ++ "=" ++ value) = utf8 key ++ 0x3D :: utf8 value := by
  rw [utf8_append, utf8_append, List.append_assoc]
  rfl

/-- `formPair` reads back `IsPlain` texts. -/
theorem formPair_plain {key value : String} (hkey : ∀ c ∈ key.toList, IsPlain c)
    (hvalue : ∀ c ∈ value.toList, IsPlain c) :
    formPair (utf8 (key ++ "=" ++ value)) = (key, value) := by
  have hall : ∀ b ∈ utf8 key, (b != 0x3D) = true := fun b hb =>
    bne_iff_ne.2 fun heq => not_mem_utf8_plain hkey (by simp) (heq ▸ hb)
  rw [formPair, utf8_pair, List.takeWhile_append_of_pos hall, List.dropWhile_append_of_pos hall]
  simp [formText_plain hkey, formText_plain hvalue]

/-! ## Parts -/

/-- `queryParts` splits at an ampersand. -/
theorem queryParts_append (front back : List UInt8) :
    queryParts (front ++ 0x26 :: back) = queryParts front ++ queryParts back := by
  have hsplit : (0x26 :: back).splitBy (fun a b => a != 0x26 && b != 0x26)
      = [0x26] :: back.splitBy (fun a b => a != 0x26 && b != 0x26) :=
    List.splitBy_append (l := [0x26]) (by simp)
  rw [queryParts, List.splitBy_append_cons back (by simp), hsplit, List.filter_append,
    List.filter_cons_of_neg (by simp)]
  rfl

/-- `queryParts` without an ampersand. -/
theorem queryParts_of_not_mem {part : List UInt8} (hne : part ≠ []) (h : 0x26 ∉ part) :
    queryParts part = [part] := by
  have hother : ∀ b ∈ part, (b != 0x26) = true := fun b hb =>
    bne_iff_ne.2 fun heq => h (heq ▸ hb)
  have hchain : part.IsChain fun a b => (a != 0x26 && b != 0x26) = true := by
    refine List.Pairwise.isChain (List.pairwise_of_forall_mem_list fun a ha b hb => ?_)
    rw [hother a ha, hother b hb, Bool.and_self]
  have hpart : (part != [0x26]) = true :=
    bne_iff_ne.2 fun heq => h (heq ▸ List.mem_singleton_self _)
  rw [queryParts, List.splitBy_of_isChain hne hchain, List.filter_cons, hpart]
  rfl

/-- `queryPairs` reads back one pair of `IsPlain` texts. -/
theorem queryPairs_plain {key value : String} (hkey : ∀ c ∈ key.toList, IsPlain c)
    (hvalue : ∀ c ∈ value.toList, IsPlain c) :
    queryPairs (utf8 (key ++ "=" ++ value)) = [(key, value)] := by
  have hne : utf8 (key ++ "=" ++ value) ≠ [] := by
    rw [utf8_pair]
    exact List.append_ne_nil_of_right_ne_nil _ (List.cons_ne_nil _ _)
  have hfree : 0x26 ∉ utf8 (key ++ "=" ++ value) := by
    intro hmem
    rw [utf8_pair, List.mem_append, List.mem_cons] at hmem
    rcases hmem with hmem | hmem | hmem
    · exact not_mem_utf8_plain hkey (by simp) hmem
    · exact absurd hmem (by decide)
    · exact not_mem_utf8_plain hvalue (by simp) hmem
  rw [queryPairs, queryParts_of_not_mem hne hfree, List.map_singleton, formPair_plain hkey hvalue]

/-- `queryPairs` of query strings between ampersands. -/
theorem queryPairs_intercalate (queries : List (List UInt8)) :
    queryPairs ([0x26].intercalate queries) = queries.flatMap queryPairs := by
  induction queries with
  | nil => rfl
  | cons query queries ih =>
    cases queries with
    | nil => simp
    | cons next queries =>
      have hjoin : [0x26].intercalate (query :: next :: queries)
          = query ++ 0x26 :: [0x26].intercalate (next :: queries) := by
        simp [List.intercalate_cons_cons]
      rw [hjoin, queryPairs, queryParts_append, List.map_append, List.flatMap_cons, ← ih]
      rfl

end Http

end NotePager

import Mathlib.Algebra.Group.Int.Defs
import NotePager.Paging.Request
import NotePager.Proofs.Encoding.Integer
import NotePager.Proofs.Json.Settled

/-!
# What is given for parameters

Values that are given by name fill in the parameters with these names, each with what its text reads
as (`ParameterName.Reads`): three are integers of 64 bits, and the others are their texts. A name
that nothing is given for, that comes with `null` or with an empty text, leaves its parameter absent
(`givenText?`). The first text that does not read is the error (`foldlM_eq_error`).

Entries without `Tells` make no difference (`ofGiven_filter_tells`): they leave the parameters as
they are, wherever they stand.
-/

namespace NotePager

open Encoding

/-- The value of a parameter. -/
inductive ParameterValue where
  | number (n : Int)
  | text (s : String)

namespace ParameterName

/-- The parameter is an integer. -/
def IsNumber (name : ParameterName) : Prop := name = limit ∨ name = offset ∨ name = span

/-- What the text of a parameter reads as. -/
def Reads (name : ParameterName) (s : String) (v : ParameterValue) : Prop :=
  match name with
  | limit | offset | span =>
    ∃ n, v = .number n ∧ SpellsInteger s.toList n ∧ -2 ^ 63 ≤ n ∧ n < 2 ^ 63
  | cursor | direction | anchor | search | color | sort | order => v = .text s

/-- `ofText?` finds every parameter by its `text`. -/
theorem ofText?_text (name : ParameterName) : ofText? name.text = some name := by
  cases name <;> rfl

/-- `ParameterName.text` is injective. -/
theorem text_injective {name other : ParameterName} (h : name.text = other.text) : name = other := by
  cases name.ofText?_text.symm.trans (h ▸ other.ofText?_text)
  rfl

/-- The parameter that `ofText?` finds has the text it was looked up by. -/
theorem text_of_ofText? {key : String} {name : ParameterName} (h : ofText? key = some name) :
    name.text = key := by
  simpa using List.find?_some h

end ParameterName

/-- The text that is given, if any. `null` and the empty text give none. -/
def GivenValue.text? : GivenValue → Option String
  | text s => if s = "" then none else some s
  | _ => none

namespace Parameters

variable {p q : Parameters} {name : ParameterName} {s key : String} {value : GivenValue}
  {values : List (String × GivenValue)}

/-- The value of the parameter with this name, if it is there. -/
def value? (p : Parameters) : ParameterName → Option ParameterValue
  | .limit => p.limit.map .number
  | .cursor => p.cursor.map .text
  | .direction => p.direction.map .text
  | .offset => p.offset.map .number
  | .anchor => p.anchor.map .text
  | .span => p.span.map .number
  | .search => p.search.map .text
  | .color => p.color.map .text
  | .sort => p.sort.map .text
  | .order => p.order.map .text

/-- `Parameters` are determined by `value?`. -/
theorem eq_of_value? (h : ∀ name, p.value? name = q.value? name) : p = q := by
  have hnumber {a b : Option Int} (hab : a.map ParameterValue.number = b.map .number) : a = b :=
    Option.map_injective (fun _ _ => ParameterValue.number.inj) hab
  have htext {a b : Option String} (hab : a.map ParameterValue.text = b.map .text) : a = b :=
    Option.map_injective (fun _ _ => ParameterValue.text.inj) hab
  obtain ⟨limit, cursor, direction, offset, anchor, span, search, color, sort, order⟩ := p
  cases q
  rw [mk.injEq]
  exact ⟨hnumber (h .limit), htext (h .cursor), htext (h .direction), hnumber (h .offset),
    htext (h .anchor), hnumber (h .span), htext (h .search), htext (h .color), htext (h .sort),
    htext (h .order)⟩

/-! ## One value -/

/-- `number` reads the texts with `SpellsInteger` for an integer of 64 bits. -/
theorem number_eq_ok_iff {n : Int} :
    number s = .ok n ↔ SpellsInteger s.toList n ∧ -2 ^ 63 ≤ n ∧ n < 2 ^ 63 :=
  readSigned_eq_ok_iff (by decide)

/-- `setTo` sets its parameter to what the text `Reads` as, and no other. -/
theorem value?_of_setTo (h : p.setTo name s = .ok q) :
    (∃ v, name.Reads s v ∧ q.value? name = some v)
      ∧ ∀ other, other ≠ name → q.value? other = p.value? other := by
  cases name with
  | limit | offset | span =>
    simp only [setTo] at h
    cases hnumber : number s with
    | error e =>
      rw [hnumber] at h
      cases h
    | ok n =>
      rw [hnumber] at h
      cases h
      refine ⟨⟨.number n, ⟨n, rfl, number_eq_ok_iff.1 hnumber⟩, rfl⟩, fun other hother => ?_⟩
      cases other <;> first | rfl | exact absurd rfl hother
  | cursor | direction | anchor | search | color | sort | order =>
    cases h
    refine ⟨⟨.text s, rfl, rfl⟩, fun other hother => ?_⟩
    cases other <;> first | rfl | exact absurd rfl hother

/-- `setTo` fails for the integer parameters only, with the error of `number`. -/
theorem number_of_setTo {cause : IntegerError} (h : p.setTo name s = .error cause) :
    name.IsNumber ∧ number s = .error cause := by
  cases name with
  | limit | offset | span =>
    simp only [setTo] at h
    cases hnumber : number s with
    | error e =>
      rw [hnumber] at h
      cases h
      exact ⟨by simp [ParameterName.IsNumber], rfl⟩
    | ok n =>
      rw [hnumber] at h
      cases h
  | cursor | direction | anchor | search | color | sort | order => cases h

/-- The entry matters to a parameter: its key is known, and neither `null` nor an empty text comes
with it. -/
def Tells (entry : String × GivenValue) : Bool :=
  (ParameterName.ofText? entry.1).isSome && entry.2 != .absent && entry.2 != .text ""

/-- `give` leaves the parameters unchanged at an entry without `Tells`. -/
theorem give_of_not_tells (h : Tells (key, value) = false) : p.give key value = .ok p := by
  unfold give
  split
  · rfl
  · rfl
  · rename_i name s hname
    have hempty : s = "" := by simpa [Tells, hname] using h
    subst hempty
    rfl
  · rename_i given _ _ _ hname habsent hnotext
    have hpresent : given ≠ .absent := habsent
    have hnonempty : given ≠ .text "" := hnotext ""
    simp [Tells, hname, hpresent, hnonempty] at h

/-- `give` with a text that is not empty is `setTo`. -/
theorem give_text (p : Parameters) (name : ParameterName) (hs : s ≠ "") :
    p.give name.text (.text s) = (p.setTo name s).mapError .number := by
  simp only [give, name.ofText?_text, set, if_neg (mt String.isEmpty_iff.1 hs)]

/-- The three ways of `give`: no `Tells` and no change, `setTo` with the entry's text, or
`textExpected`. -/
theorem give_cases (p : Parameters) (key : String) (value : GivenValue) :
    (Tells (key, value) = false ∧ p.give key value = .ok p)
    ∨ (∃ name s, name.text = key ∧ value = .text s ∧ s ≠ ""
      ∧ p.give key value = (p.setTo name s).mapError .number)
    ∨ (value ≠ .absent ∧ (∀ s, value ≠ .text s)
      ∧ p.give key value = .error (.textExpected value)) := by
  cases htells : Tells (key, value) with
  | false => exact .inl ⟨rfl, give_of_not_tells htells⟩
  | true =>
    simp only [Tells, Bool.and_eq_true, Option.isSome_iff_exists, bne_iff_ne] at htells
    obtain ⟨⟨⟨name, hname⟩, habsent⟩, hempty⟩ := htells
    obtain rfl := ParameterName.text_of_ofText? hname
    cases value with
    | absent => exact absurd rfl habsent
    | text s =>
      have hs : s ≠ "" := fun h => hempty (h ▸ rfl)
      exact .inr (.inl ⟨name, s, rfl, rfl, hs, give_text p name hs⟩)
    | integer | fraction | boolean | sequence | mapping =>
      exact .inr (.inr ⟨nofun, nofun, by simp only [give, hname]⟩)

/-- An entry for a parameter without `Tells` has no `GivenValue.text?`. -/
theorem text?_of_not_tells (h : Tells (name.text, value) = false) : value.text? = none := by
  cases value with
  | text s =>
    have hs : s = "" := by simpa [Tells, name.ofText?_text] using h
    exact if_pos hs
  | absent | integer | fraction | boolean | sequence | mapping => rfl

/-- `give` sets the parameter of its key to what the text `Reads` as, if there is a text, and no
other. -/
theorem value?_of_give (h : p.give key value = .ok q) :
    (∀ name, name.text = key → match value.text? with
      | none => q.value? name = p.value? name
      | some s => ∃ v, name.Reads s v ∧ q.value? name = some v)
    ∧ ∀ name, name.text ≠ key → q.value? name = p.value? name := by
  rcases give_cases p key value with
    ⟨htells, hgive⟩ | ⟨known, s, rfl, rfl, hs, hgive⟩ | ⟨-, -, hgive⟩
  · cases hgive.symm.trans h
    refine ⟨?_, fun _ _ => rfl⟩
    rintro name rfl
    rw [text?_of_not_tells htells]
  · have hsome : (GivenValue.text s).text? = some s := if_neg hs
    rw [hgive] at h
    cases hset : p.setTo known s with
    | error e =>
      rw [hset] at h
      cases h
    | ok p' =>
      rw [hset] at h
      cases h
      obtain ⟨hvalue, hothers⟩ := value?_of_setTo hset
      rw [hsome]
      refine ⟨fun name hname => ?_, fun name hname => hothers name fun hsame => ?_⟩
      · cases ParameterName.text_injective hname
        exact hvalue
      · exact hname (congrArg ParameterName.text hsame)
  · cases hgive.symm.trans h

/-- `give` fails at an absent value or a text only for an integer parameter whose text `number`
refuses. -/
theorem number_of_give {e : GivenError} (h : p.give key value = .error e)
    (htext : value = .absent ∨ ∃ s, value = .text s) :
    ∃ name s cause, key = ParameterName.text name ∧ value = .text s ∧ s ≠ "" ∧ name.IsNumber
      ∧ number s = .error cause ∧ e = .number cause := by
  rcases give_cases p key value with
    ⟨-, hgive⟩ | ⟨name, s, rfl, rfl, hs, hgive⟩ | ⟨habsent, hnotext, -⟩
  · cases hgive.symm.trans h
  · rw [hgive] at h
    cases hset : p.setTo name s with
    | ok p' =>
      rw [hset] at h
      cases h
    | error cause =>
      rw [hset] at h
      cases h
      obtain ⟨hnumber, hcause⟩ := number_of_setTo hset
      exact ⟨name, s, cause, rfl, rfl, hs, hnumber, hcause, rfl⟩
  · rcases htext with rfl | ⟨s, rfl⟩
    · exact absurd rfl habsent
    · exact absurd rfl (hnotext s)

/-! ## All values -/

/-- The text that is given for a parameter, if any. -/
def givenText? (values : List (String × GivenValue)) (name : ParameterName) : Option String :=
  (values.lookup name.text).bind GivenValue.text?

/-- `List.lookup` finds nothing for a key that is not there. -/
theorem lookup_of_not_mem (h : key ∉ values.map Prod.fst) : values.lookup key = none := by
  refine List.lookup_eq_none_iff.2 fun entry hentry => ?_
  refine bne_iff_ne.2 fun hsame => h ?_
  rw [hsame]
  exact List.mem_map_of_mem hentry

/-- `givenText?` by the first entry. -/
theorem givenText?_cons (name : ParameterName) (key : String) (value : GivenValue)
    (values : List (String × GivenValue)) :
    givenText? ((key, value) :: values) name
      = if name.text = key then value.text? else givenText? values name := by
  rw [givenText?, List.lookup_cons]
  by_cases hname : name.text = key
  · rw [if_pos hname, beq_iff_eq.2 hname]
    rfl
  · rw [if_neg hname, beq_false_of_ne hname]
    rfl

/-- Folding `give` over entries with distinct keys sets each parameter to what its `givenText?`
reads as, and leaves those without one. -/
theorem value?_of_foldlM_give (hkeys : (values.map Prod.fst).Nodup)
    (h : values.foldlM (fun p (key, value) => give p key value) p = .ok q) (name : ParameterName) :
    match givenText? values name with
    | none => q.value? name = p.value? name
    | some s => ∃ v, name.Reads s v ∧ q.value? name = some v := by
  induction values generalizing p with
  | nil =>
    cases h
    rfl
  | cons entry values ih =>
    obtain ⟨key, value⟩ := entry
    rw [List.map_cons, List.nodup_cons] at hkeys
    obtain ⟨p', hgive, hrest⟩ := bind_eq_ok_iff.1 h
    obtain ⟨hhere, helsewhere⟩ := value?_of_give hgive
    have hlater := ih hkeys.2 hrest
    rw [givenText?_cons]
    by_cases hname : name.text = key
    · -- The name does not come again, so its parameter keeps what it has from here.
      have hnone : givenText? values name = none := by
        rw [givenText?, lookup_of_not_mem (hname ▸ hkeys.1), Option.bind_none]
      rw [hnone] at hlater
      rw [if_pos hname, hlater]
      exact hhere name hname
    · rw [if_neg hname, ← helsewhere name hname]
      exact hlater

/-- A failing `List.foldlM` fails at one of its elements, after a front that succeeds. -/
theorem foldlM_eq_error {f : β → α → Except ε β} {xs : List α} {b : β} {e : ε}
    (h : xs.foldlM f b = .error e) :
    ∃ front x back b', xs = front ++ x :: back ∧ front.foldlM f b = .ok b' ∧ f b' x = .error e := by
  induction xs generalizing b with
  | nil => cases h
  | cons x xs ih =>
    cases hx : f b x with
    | error e' =>
      rw [List.foldlM_cons, hx] at h
      cases h
      exact ⟨[], x, xs, b, rfl, rfl, hx⟩
    | ok b₁ =>
      rw [List.foldlM_cons, hx] at h
      obtain ⟨front, x', back, b', rfl, hfront, hx'⟩ := ih h
      exact ⟨x :: front, x', back, b', rfl, bind_eq_ok_iff.2 ⟨b₁, hx, hfront⟩, hx'⟩

/-- `ofGiven` depends on the entries with `Tells` only. -/
theorem ofGiven_filter_tells (values : List (String × GivenValue)) :
    ofGiven (values.filter Tells) = ofGiven values := by
  have hall (p : Parameters) :
      (values.filter Tells).foldlM (fun p (key, value) => give p key value) p
        = values.foldlM (fun p (key, value) => give p key value) p := by
    induction values generalizing p with
    | nil => rfl
    | cons entry values ih =>
      obtain ⟨key, value⟩ := entry
      rw [List.foldlM_cons]
      cases htells : Tells (key, value) with
      | false =>
        rw [List.filter_cons_of_neg (by simp [htells]), ih p]
        simp only [give_of_not_tells htells]
        rfl
      | true =>
        rw [List.filter_cons_of_pos htells, List.foldlM_cons]
        exact congrArg _ (funext ih)
  exact hall {}

/-- A text `Reads` as a value of its parameter, except one for an integer parameter that spells no
integer of 64 bits. -/
theorem exists_reads_iff :
    (∃ v, name.Reads s v)
      ↔ (name.IsNumber → ∃ n, SpellsInteger s.toList n ∧ -2 ^ 63 ≤ n ∧ n < 2 ^ 63) := by
  cases name with
  | limit | offset | span =>
    refine ⟨?_, fun h => ?_⟩
    · rintro ⟨v, n, -, hn⟩ -
      exact ⟨n, hn⟩
    obtain ⟨n, hn⟩ := h (by simp [ParameterName.IsNumber])
    exact ⟨.number n, n, rfl, hn⟩
  | cursor | direction | anchor | search | color | sort | order =>
    refine ⟨fun _ h => ?_, fun _ => ⟨.text s, rfl⟩⟩
    simp [ParameterName.IsNumber] at h

/-- `ParameterName.Reads` is functional. -/
theorem reads_unique {v w : ParameterValue} (hv : name.Reads s v) (hw : name.Reads s w) :
    v = w := by
  cases name with
  | limit | offset | span =>
    obtain ⟨n, rfl, hn⟩ := hv
    obtain ⟨m, rfl, hm⟩ := hw
    cases (number_eq_ok_iff.2 hn).symm.trans (number_eq_ok_iff.2 hm)
    rfl
  | cursor | direction | anchor | search | color | sort | order => exact Eq.trans hv hw.symm

/-- `ofGiven` succeeds when every `givenText?` reads as a value of its parameter. -/
theorem exists_ofGiven (hkeys : (values.map Prod.fst).Nodup)
    (htexts : ∀ entry ∈ values, entry.2 = .absent ∨ ∃ s, entry.2 = .text s)
    (hreads : ∀ name s, givenText? values name = some s → ∃ v, ParameterName.Reads name s v) :
    ∃ p, ofGiven values = .ok p := by
  cases hgiven : ofGiven values with
  | ok p => exact ⟨p, rfl⟩
  | error e =>
    obtain ⟨front, ⟨key, value⟩, back, p, rfl, -, hfault⟩ := foldlM_eq_error hgiven
    have htext := htexts (key, value) (List.mem_append_right front List.mem_cons_self)
    obtain ⟨name, s, cause, rfl, rfl, hs, hnumber, hcause, -⟩ := number_of_give hfault htext
    have hfirst : name.text ∉ front.map Prod.fst := by
      rw [List.map_append, List.nodup_append] at hkeys
      exact fun hmem => hkeys.2.2 _ hmem _ List.mem_cons_self rfl
    have hgivenText : givenText? (front ++ (name.text, .text s) :: back) name = some s := by
      rw [givenText?, List.lookup_append, lookup_of_not_mem hfirst, Option.none_or,
        List.lookup_cons_self]
      exact if_neg hs
    obtain ⟨n, hn⟩ := exists_reads_iff.1 (hreads name s hgivenText) hnumber
    cases hcause.symm.trans (number_eq_ok_iff.2 hn)

/-- `ofGiven` succeeds with the parameters whose values the texts read as, and with no others. -/
theorem ofGiven_eq_ok_iff (hkeys : (values.map Prod.fst).Nodup)
    (htexts : ∀ entry ∈ values, entry.2 = .absent ∨ ∃ s, entry.2 = .text s) :
    ofGiven values = .ok p
      ↔ ∀ name, Option.Rel (ParameterName.Reads name) (givenText? values name) (p.value? name) := by
  have hfilled {q : Parameters} (hq : ofGiven values = .ok q) (name : ParameterName) :
      Option.Rel (ParameterName.Reads name) (givenText? values name) (q.value? name) := by
    have hvalue := value?_of_foldlM_give hkeys hq name
    split at hvalue
    · rename_i hnone
      have hstart : ({} : Parameters).value? name = none := by cases name <;> rfl
      rw [hnone, hvalue, hstart]
      exact .none
    · rename_i s hsome
      obtain ⟨v, hreads, hv⟩ := hvalue
      rw [hsome, hv]
      exact .some hreads
  refine ⟨hfilled, fun h => ?_⟩
  obtain ⟨q, hq⟩ := exists_ofGiven hkeys htexts fun name s hs => by
    have hname := h name
    rw [hs] at hname
    generalize p.value? name = value at hname
    cases hname with
    | some hreads => exact ⟨_, hreads⟩
  have hsame : q = p := eq_of_value? fun name => by
    have hp := h name
    have hq := hfilled hq name
    generalize p.value? name = v, q.value? name = w, givenText? values name = text at hp hq
    cases hp with
    | none => cases hq; rfl
    | some hv =>
      cases hq with
      | some hw => rw [reads_unique hv hw]
  rw [hq, hsame]

/-- `ofGiven` fails at an integer parameter whose text `number` refuses, when the entries before it
succeed. -/
theorem ofGiven_eq_error {front : List (String × GivenValue)} {cause : IntegerError}
    (hfront : ofGiven front = .ok p) (hname : name.IsNumber) (hs : s ≠ "")
    (hcause : number s = .error cause) (back : List (String × GivenValue)) :
    ofGiven (front ++ (name.text, .text s) :: back) = .error (.number cause) := by
  have hset : p.setTo name s = .error cause := by
    rcases hname with rfl | rfl | rfl <;> simp only [setTo, hcause] <;> rfl
  have hgive : p.give name.text (.text s) = .error (.number cause) := by
    rw [give_text p name hs, hset]
    rfl
  rw [ofGiven] at hfront ⊢
  rw [List.foldlM_append, hfront]
  show (p.give name.text (.text s) >>= _) = _
  rw [hgive]
  rfl

/-- `ofGiven` of entries with distinct keys, each `null` or a text, gives the parameters whose
values are what the texts of `givenText?` read as. It succeeds exactly when the texts for the
integer parameters spell integers of 64 bits: one sign at most and ASCII digits, with any number of
leading zeros. The first text that spells an integer beyond 64 bits is refused as too large or too
small. `ofGiven`, also followed by `validate`, depends on the entries with `Tells` only. -/
theorem ofGiven_exact (hkeys : (values.map Prod.fst).Nodup)
    (htexts : ∀ entry ∈ values, entry.2 = .absent ∨ ∃ s, entry.2 = .text s) :
    (∀ p, ofGiven values = .ok p
        ↔ ∀ name, Option.Rel (ParameterName.Reads name) (givenText? values name) (p.value? name))
    ∧ ((∃ p, ofGiven values = .ok p)
        ↔ ∀ name s, ParameterName.IsNumber name → givenText? values name = some s →
          ∃ n, SpellsInteger s.toList n ∧ -2 ^ 63 ≤ n ∧ n < 2 ^ 63)
    ∧ (∀ front name s back n, values = front ++ (ParameterName.text name, .text s) :: back →
        (∃ p, ofGiven front = .ok p) → name.IsNumber → SpellsInteger s.toList n →
          (2 ^ 63 ≤ n → ∃ e, ofGiven values = .error e
            ∧ e.message = "number too large to fit in target type")
          ∧ (n < -2 ^ 63 → ∃ e, ofGiven values = .error e
            ∧ e.message = "number too small to fit in target type"))
    ∧ ∀ values', values'.filter Tells = values.filter Tells →
      ofGiven values' = ofGiven values
        ∧ (ofGiven values').map validate = (ofGiven values).map validate := by
  refine ⟨fun p => ofGiven_eq_ok_iff hkeys htexts, ⟨?_, fun h => ?_⟩, ?_, fun values' hsame => ?_⟩
  · rintro ⟨p, hp⟩ name s hname hs
    have hread := (ofGiven_eq_ok_iff hkeys htexts).1 hp name
    rw [hs] at hread
    generalize p.value? name = value at hread
    cases hread with
    | some hreads => exact exists_reads_iff.1 ⟨_, hreads⟩ hname
  · exact exists_ofGiven hkeys htexts fun name s hs =>
      exists_reads_iff.2 fun hname => h name s hname hs
  · rintro front name s back n rfl ⟨p, hfront⟩ hname hspells
    have hs : s ≠ "" := by
      rintro rfl
      cases hspells with
      | bare h => exact h.ne_nil rfl
    have hread : number s = _ := readSigned_of_spells (by decide) hspells
    have hhalf : ((UInt64.size / 2 : Nat) : Int) = 2 ^ 63 := by decide
    rw [hhalf] at hread
    refine ⟨fun hlarge => ?_, fun hsmall => ?_⟩
    · rw [if_neg (by omega), if_pos hlarge] at hread
      exact ⟨_, ofGiven_eq_error hfront hname hs hread back, rfl⟩
    · rw [if_pos hsmall] at hread
      exact ⟨_, ofGiven_eq_error hfront hname hs hread back, rfl⟩
  · have hequal : ofGiven values' = ofGiven values := by
      rw [← ofGiven_filter_tells values', hsame, ofGiven_filter_tells]
    exact ⟨hequal, by rw [hequal]⟩

/-- `ofGiven_exact` for a page size with a sign and leading zeros, a search text with blanks around
it and entries without `Tells`, and for the same with a span that is too small. -/
theorem ofGiven_exact_padded :
    let values : List (String × GivenValue) := [("offset", .text ""), ("limit", .text "+007"),
      ("page", .text "3"), ("q", .text " tea "), ("cursor", .absent)]
    let faulty := values ++ [("span", .text "-9223372036854775809")]
    (values.map Prod.fst).Nodup ∧ (faulty.map Prod.fst).Nodup
      ∧ ofGiven values = .ok { limit := some 7, search := some " tea " }
      ∧ ofGiven [("limit", .text "+007"), ("q", .text " tea ")] = ofGiven values
      ∧ ∃ e, ofGiven faulty = .error e ∧ e.message = "number too small to fit in target type" := by
  intro values faulty
  have hkeys : (values.map Prod.fst).Nodup := by decide
  have hfaultyKeys : (faulty.map Prod.fst).Nodup := by decide
  have htexts : ∀ entry ∈ faulty, entry.2 = .absent ∨ ∃ s, entry.2 = .text s := by
    simp [faulty, values]
  have hexact := ofGiven_exact hkeys fun entry hentry =>
    htexts entry (List.mem_append_left _ hentry)
  have hlimit : ParameterName.Reads .limit "+007" (.number 7) :=
    ⟨7, rfl, .plus ⟨by decide, List.all_eq_true.1 (by decide)⟩, by decide, by decide⟩
  have hread : ofGiven values = .ok { limit := some 7, search := some " tea " } := by
    refine (hexact.1 _).2 fun name => ?_
    cases name with
    | limit => exact .some hlimit
    | search => exact .some rfl
    | cursor | direction | offset | anchor | span | color | sort | order => exact .none
  have hspan : SpellsInteger "-9223372036854775809".toList (-9223372036854775809) :=
    .minus ⟨by decide, List.all_eq_true.1 (by decide)⟩
  refine ⟨hkeys, hfaultyKeys, hread, (hexact.2.2.2 _ (by decide)).1, ?_⟩
  exact ((ofGiven_exact hfaultyKeys htexts).2.2.1 values .span _ [] _ rfl ⟨_, hread⟩
    (.inr (.inr rfl)) hspan).2 (by decide)

end Parameters

end NotePager

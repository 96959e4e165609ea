import NotePager.Note.Json
import NotePager.Proofs.Encoding.Hex
import NotePager.Proofs.Json.Settled

/-!
# How much a reader takes

What a reader takes off the front of a text is as long as the value needs at least
(`Reader.Takes`). A string is not shorter than its content, since no escape stands for more bytes
than it has. A record is not shorter than the values that its fields have to bring: what they are
worth together (`Reader.Field.Pays`) is taken member by member. Therefore a short text holds no
value that is written with many digits, however it is written (`NoteId.takes_reader`).
-/

namespace NotePager

namespace Json

open Text

variable {bytes rest : List UInt8}

/-- `skipSpaces` leaves no more bytes than there are. -/
theorem length_skipSpaces_le (bytes : List UInt8) : (skipSpaces bytes).length ≤ bytes.length :=
  (List.dropWhile_suffix _).length_le

/-- `skipSpaces` leaves fewer bytes behind the byte it finds. -/
theorem length_lt_of_skipSpaces {b : UInt8} (h : skipSpaces bytes = b :: rest) :
    rest.length < bytes.length := by
  have hle := length_skipSpaces_le bytes
  rw [h, List.length_cons] at hle
  omega

/-! ## Strings -/

/-- `pushCode` pushes four bytes at most. -/
theorem length_pushCode_le (code : Nat) (read : List UInt8) :
    (pushCode code read).length ≤ 4 + read.length := by
  have hsize := Char.utf8Size_le_four (Char.ofNat code)
  rw [pushCode, List.length_append, List.length_reverse, String.length_utf8EncodeChar]
  omega

/-- `stringOnto` takes at least the bytes of the content and one more, since an escape is longer
than what it stands for. -/
theorem length_of_stringOnto {read content : List UInt8}
    (h : stringOnto read bytes = .ok (content, rest)) :
    content.length + rest.length + 1 ≤ read.length + bytes.length := by
  fun_induction stringOnto read bytes with
  | case2 read after =>
    cases h
    simp only [List.length_reverse, List.length_cons]
    omega
  | case6 read a b c d after code hquad hlow hhigh ih =>
    have hcode := length_pushCode_le code read
    have hrest := ih h
    simp only [List.length_cons]
    omega
  | case11 read a b c d code hquad hlow hhigh a' b' c' d' after code' hquad' hlow' ih =>
    have hcode := length_pushCode_le ((code - 0xD800) * 1024 + (code' - 0xDC00) + 0x10000) read
    have hrest := ih h
    simp only [List.length_cons]
    omega
  | case16 | case18 =>
    rename_i ih
    have hrest := ih h
    simp only [List.length_cons] at hrest ⊢
    omega
  | _ => cases h

/-- `scanString` takes at least the bytes of the string and one more. -/
theorem length_of_scanString {s : String} (h : scanString bytes = .ok (s, rest)) :
    (utf8 s).length + rest.length + 1 ≤ bytes.length := by
  rw [scanString] at h
  split at h
  · cases h
  · rename_i content after hcontent
    have hlength := length_of_stringOnto hcontent
    cases hs : ofUtf8? content with
    | none => simp only [hs, reduceCtorEq] at h
    | some s' =>
      simp only [hs] at h
      cases h
      rw [utf8_of_ofUtf8? hs]
      rwa [List.length_nil, Nat.zero_add] at hlength

/-! ## Skipped values -/

/-- `skipFrom` leaves no more bytes than there are. -/
theorem length_of_skipFrom {state : SkipState} {stack : List Frame}
    (h : skipFrom state stack bytes = .ok rest) : rest.length ≤ bytes.length := by
  fun_induction skipFrom state stack bytes with
  | case1 state stack =>
    cases hend : skipEnd stack state with
    | error e => simp [hend, Except.map] at h
    | ok u =>
      rw [hend] at h
      cases h
      exact Nat.le_refl _
  | case2 state stack b after state' stack' hstep ih => exact Nat.le_trans (ih h) (Nat.le_succ _)
  | case3 state stack b after hstep =>
    cases h
    exact Nat.le_succ _
  | case4 state stack b after hstep =>
    cases h
    exact Nat.le_refl _
  | case5 state stack b after hstep => cases h

/-- `skipValue` leaves no more bytes than there are. -/
theorem length_of_skipValue (h : skipValue bytes = .ok rest) : rest.length ≤ bytes.length :=
  length_of_skipFrom h

namespace Reader

/-! ## Punctuation -/

/-- `nextItem` leaves no more bytes than there are. -/
theorem length_of_nextItem {first : Bool} (h : nextItem first bytes = .ok (some rest)) :
    rest.length ≤ bytes.length := by
  have hspaces := length_skipSpaces_le bytes
  rw [nextItem] at h
  split at h
  · cases h
  · cases h
  · rename_i b after hb hfront
    have hafter := length_lt_of_skipSpaces hfront
    split at h
    · cases h
      rwa [← hfront]
    · split at h
      · have hitem := length_skipSpaces_le after
        split at h
        · cases h
        · cases h
        · cases h
          omega
      · cases h

/-- `nextKey` leaves no more bytes than there are. -/
theorem length_of_nextKey {first : Bool} (h : nextKey first bytes = .ok (some rest)) :
    rest.length ≤ bytes.length := by
  rw [nextKey] at h
  split at h
  · cases h
  · cases h
  · rename_i after hfront
    split at h
    · cases h
      exact Nat.le_of_lt (length_lt_of_skipSpaces hfront)
    · cases h
  · rename_i after hfront
    have hafter := length_lt_of_skipSpaces hfront
    split at h
    · cases h
    · split at h
      · cases h
      · rename_i hkey
        have hnext := length_lt_of_skipSpaces hkey
        cases h
        omega
      · cases h
  · cases h

/-- `afterColon` leaves no more bytes than there are. -/
theorem length_of_afterColon (h : afterColon bytes = .ok rest) : rest.length ≤ bytes.length := by
  rw [afterColon] at h
  split at h
  · cases h
  · rename_i hfront
    cases h
    exact Nat.le_of_lt (length_lt_of_skipSpaces hfront)
  · cases h

/-- `closing` leaves no more bytes than there are. -/
theorem length_of_closing {close : UInt8} (h : closing close bytes = .ok rest) :
    rest.length ≤ bytes.length := by
  rw [closing] at h
  split at h
  · cases h
  · rename_i b after hfront
    split at h
    · cases h
      exact Nat.le_of_lt (length_lt_of_skipSpaces hfront)
    · cases h

/-! ## Records -/

/-- The reader takes as many bytes as its value needs at least. -/
def Takes (need : α → Nat) (read : Reader α) : Prop :=
  ∀ ⦃bytes v rest⦄, read bytes = .ok (v, rest) → need v + rest.length ≤ bytes.length

/-- `Reader.string` takes at least the bytes of the string and two quotes. -/
theorem takes_string : Takes (fun s => (utf8 s).length + 2) string := by
  intro bytes s rest h
  rw [string] at h
  split at h
  · rename_i after hfront
    have hopened := length_lt_of_skipSpaces hfront
    have hstring := length_of_scanString h
    simp only
    omega
  · cases h

/-- `Takes` through `Reader.filterMap`. -/
theorem Takes.filterMap {need : α → Nat} {need' : β → Nat} {read : Reader α}
    (hread : Takes need read) {f : α → Option β} (hf : ∀ v w, f v = some w → need' w ≤ need v) :
    Takes need' (read.filterMap f) := by
  intro bytes w rest h
  rw [Reader.filterMap] at h
  split at h
  · cases h
  · rename_i v after hv
    have htaken := hread hv
    cases hw : f v with
    | none => simp only [hw, reduceCtorEq] at h
    | some w' =>
      simp only [hw] at h
      cases h
      have hneed := hf v w hw
      omega

section
variable {σ : Type} {fields : List (Field σ)} {record record' : σ} {worth : σ → Nat}

/-- Whatever the field adds to the worth of a record is taken. -/
def Field.Pays (worth : σ → Nat) (field : Field σ) : Prop :=
  ∀ ⦃record bytes record' rest⦄, field.read record bytes = .ok (record', rest) →
    worth record' + rest.length ≤ worth record + bytes.length

/-- `Field.into` pays if it adds no more than its value needs. -/
theorem Takes.into {need : α → Nat} {read : Reader α} (hread : Takes need read) (key : String)
    {set : α → σ → σ} (hset : ∀ v record, worth (set v record) ≤ worth record + need v) :
    Field.Pays worth (.into key read set) := by
  intro record bytes record' rest h
  simp only [Field.into] at h
  cases hv : read bytes with
  | error e => simp [hv, Except.map] at h
  | ok p =>
    obtain ⟨v, after⟩ := p
    rw [hv] at h
    cases h
    have htaken := hread hv
    have hadded := hset v record
    simp only
    omega

/-- `Reader.members` takes at least what its fields add to the worth. -/
theorem members_pay (hfields : ∀ field ∈ fields, field.Pays worth) {fuel : Nat}
    {seen : List String} {first : Bool}
    (h : members fields fuel seen first record bytes = .ok (record', rest)) :
    worth record' + rest.length ≤ worth record + bytes.length := by
  induction fuel generalizing seen first record bytes with
  | zero => cases h
  | succ fuel ih =>
    rw [members_eq_ok_iff] at h
    obtain ⟨-, rfl, rfl⟩ | ⟨named, key, colon, value, hnamed, hkey, hcolon, hvalue⟩ := h
    · exact Nat.le_refl _
    · have hnext := length_of_nextKey hnamed
      have hstring := length_of_scanString hkey
      have hplace := length_of_afterColon hcolon
      obtain ⟨field, record'', after, hfield, -, hread, hrest⟩ | ⟨after, -, hskip, hrest⟩ := hvalue
      · have hpaid := hfields field (List.mem_of_find?_eq_some hfield) hread
        have hfurther := ih hrest
        omega
      · have hskipped := length_of_skipValue hskip
        have hfurther := ih hrest
        omega

/-- `Reader.entries` takes at least what its fields add to the worth. -/
theorem entries_pay (hfields : ∀ field ∈ fields, field.Pays worth) {first : Bool}
    (h : entries fields first record bytes = .ok (record', rest)) :
    worth record' + rest.length ≤ worth record + bytes.length := by
  induction fields generalizing first record bytes with
  | nil =>
    cases h
    exact Nat.le_refl _
  | cons field fields ih =>
    obtain ⟨hfield, hfields⟩ := List.forall_mem_cons.1 hfields
    rw [entries] at h
    obtain ⟨next?, hnext, h⟩ := bind_eq_ok_iff.1 h
    cases next? with
    | none =>
      cases h
      exact Nat.le_refl _
    | some item =>
      obtain ⟨⟨record'', after⟩, hread, h⟩ := bind_eq_ok_iff.1 h
      have hitem := length_of_nextItem hnext
      have hpaid := hfield hread
      have hfurther := ih hfields h
      omega

/-- `finished` takes nothing, and its value needs no more than the worth of the record. -/
theorem takes_finished {need : α → Nat} {finish : σ → Option α} {state : σ}
    (hfinish : ∀ v, finish state = some v → need v ≤ worth state) {close : UInt8} {v : α}
    (h : finished finish close state bytes = .ok (v, rest)) :
    need v + rest.length ≤ worth state + bytes.length := by
  rw [finished] at h
  cases hv : finish state with
  | none => simp only [hv, reduceCtorEq] at h
  | some v' =>
    simp only [hv] at h
    obtain ⟨after, hclose, h⟩ := bind_eq_ok_iff.1 h
    cases h
    have hneed := hfinish v hv
    have hclosed := length_of_closing hclose
    omega

end

/-- `Reader.record` of fields that pay `Takes` what its value needs. -/
theorem Takes.record {need : α → Nat} (worth : σ → Nat) {fields : List (Field σ)} {start : σ}
    {finish : σ → Option α} (hfields : ∀ field ∈ fields, field.Pays worth)
    (hstart : worth start = 0) (hfinish : ∀ state v, finish state = some v → need v ≤ worth state) :
    Takes need (Reader.record fields start finish) := by
  intro bytes v rest h
  rw [Reader.record] at h
  split at h
  · rename_i after hfront
    obtain ⟨⟨state, after'⟩, hstate, h⟩ := bind_eq_ok_iff.1 h
    have hopened := length_lt_of_skipSpaces hfront
    have hmembers := members_pay hfields hstate
    have hfinished := takes_finished (hfinish state) h
    omega
  · rename_i after hfront
    obtain ⟨⟨state, after'⟩, hstate, h⟩ := bind_eq_ok_iff.1 h
    have hopened := length_lt_of_skipSpaces hfront
    have hentries := entries_pay hfields hstate
    have hfinished := takes_finished (hfinish state) h
    omega
  · cases h

/-- `Reader.run` succeeds only on texts as long as the value needs. -/
theorem Takes.run {need : α → Nat} {read : Reader α} (hread : Takes need read) {v : α}
    (h : read.run bytes = .ok v) : need v ≤ bytes.length := by
  obtain ⟨⟨w, rest⟩, hw, h⟩ := bind_eq_ok_iff.1 h
  have htaken := hread hw
  simp only at h
  split at h
  · cases h
    omega
  · cases h

end Reader

end Json

/-- `NoteId.reader` takes at least `2 * size` bytes. -/
theorem NoteId.takes_reader : Json.Reader.Takes (fun _ => 2 * NoteId.size) NoteId.reader := by
  refine Json.Reader.takes_string.filterMap fun s id hid => ?_
  cases h : NoteId.ofHex s with
  | error e => simp [h, Except.toOption] at hid
  | ok id' =>
    have hlength := NoteId.length_of_ofHex h
    omega

end NotePager

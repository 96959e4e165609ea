import NotePager.Json.Reader

/-!
# What a reader has taken

What a reader takes off the front of a text is settled by the bytes it takes: with anything behind
them it takes the same value and leaves the same rest, and what comes behind that
(`Reader.Settled`). So are strings, and records of fields that are. A number is not, because further
digits behind it make another number, and with it the skipping of a value is settled only if
something is left (`skipValue_append`). Inside a record something always is, at least the closing
byte.

Therefore a text that a reader takes to its last byte cannot be cut: what is in front of the cut
makes no value at all (`Reader.Settled.run_cut`).
-/

namespace NotePager

/-- `>>=` succeeds when both parts do. -/
theorem bind_eq_ok_iff {x : Except ε α} {f : α → Except ε β} {b : β} :
    (x >>= f) = .ok b ↔ ∃ a, x = .ok a ∧ f a = .ok b := by
  cases x with
  | error e => simp [bind, Except.bind]
  | ok a => simp [bind, Except.bind]

namespace Json

open Text

variable {bytes rest : List UInt8}

/-- `skipSpaces` that finds a byte is unaffected by `more` behind. -/
theorem skipSpaces_append {b : UInt8} (h : skipSpaces bytes = b :: rest) (more : List UInt8) :
    skipSpaces (bytes ++ more) = b :: (rest ++ more) := by
  rw [skipSpaces] at h
  rw [skipSpaces, List.dropWhile_append, h]
  rfl

/-! ## Strings -/

/-- `stringOnto` that succeeds is unaffected by `more` behind. -/
theorem stringOnto_append {read content : List UInt8}
    (h : stringOnto read bytes = .ok (content, rest)) (more : List UInt8) :
    stringOnto read (bytes ++ more) = .ok (content, rest ++ more) := by
  -- Five of the cases read something; in the others the string is refused.
  fun_induction stringOnto read bytes with
  | case2 read after =>
    cases h
    rfl
  | case6 read a b c d after code hquad hlow hhigh ih =>
    simp only [List.cons_append, stringOnto, hquad, if_neg hlow, if_pos hhigh, ih h]
  | case11 read a b c d code hquad hlow hhigh a' b' c' d' after code' hquad' hlow' ih =>
    simp only [List.cons_append, stringOnto, hquad, if_neg hlow, if_neg hhigh, hquad', if_neg hlow',
      ih h]
  | case16 read b after hnumbered hnumber c hescape ih =>
    rw [List.cons_append, List.cons_append, stringOnto, hescape]
    · exact ih h
    · exact fun _ _ _ _ _ hb _ => hnumber hb
    · exact hnumber
  | case18 read b after hquote hslash hcontrol ih =>
    rw [List.cons_append, stringOnto, if_neg hcontrol, ih h]
    · exact hquote
    · exact hslash
  | _ => cases h

/-- `scanString` that succeeds is unaffected by `more` behind. -/
theorem scanString_append {s : String} (h : scanString bytes = .ok (s, rest))
    (more : List UInt8) : scanString (bytes ++ more) = .ok (s, rest ++ more) := by
  rw [scanString] at h
  split at h
  · cases h
  · rename_i content after hcontent
    simp only [scanString, stringOnto_append hcontent more]
    cases hs : ofUtf8? content with
    | none => simp only [hs, reduceCtorEq] at h
    | some s' =>
      simp only [hs] at h
      cases h
      rfl

/-! ## Skipped values -/

/-- `skipFrom` that succeeds with something left is unaffected by `more` behind. -/
theorem skipFrom_append {state : SkipState} {stack : List Frame}
    (h : skipFrom state stack bytes = .ok rest) (hrest : rest ≠ []) (more : List UInt8) :
    skipFrom state stack (bytes ++ more) = .ok (rest ++ more) := by
  fun_induction skipFrom state stack bytes with
  | case1 state stack =>
    cases hend : skipEnd stack state with
    | error e => simp [hend, Except.map] at h
    | ok u => simp [hend, Except.map, eq_comm, hrest] at h
  | case2 state stack b after state' stack' hstep ih =>
    simp only [List.cons_append, skipFrom, hstep, ih h]
  | case3 state stack b after hstep =>
    cases h
    simp only [List.cons_append, skipFrom, hstep]
  | case4 state stack b after hstep =>
    cases h
    simp only [List.cons_append, skipFrom, hstep]
  | case5 state stack b after hstep => cases h

/-- `skipValue` that succeeds with something left is unaffected by `more` behind. -/
theorem skipValue_append (h : skipValue bytes = .ok rest) (hrest : rest ≠ []) (more : List UInt8) :
    skipValue (bytes ++ more) = .ok (rest ++ more) :=
  skipFrom_append h hrest more

namespace Reader

/-! ## Punctuation -/

/-- `nextItem` that succeeds is unaffected by `more` behind. -/
theorem nextItem_append {first : Bool} {next? : Option (List UInt8)}
    (h : nextItem first bytes = .ok next?) (more : List UInt8) :
    nextItem first (bytes ++ more) = .ok (next?.map (· ++ more)) := by
  rw [nextItem] at h
  split at h
  · cases h
  · rename_i hclose
    cases h
    rw [nextItem, skipSpaces_append hclose]
    rfl
  · rename_i b after hb hfront
    rw [nextItem, skipSpaces_append hfront]
    cases first with
    | true =>
      cases h
      simp
    | false =>
      simp only [Bool.false_eq_true, if_false] at h ⊢
      split at h
      · rename_i hcomma
        rw [if_pos hcomma]
        split at h
        · cases h
        · cases h
        · rename_i hnonempty hopen
          cases h
          obtain ⟨b', after', hafter⟩ := List.exists_cons_of_ne_nil hnonempty
          rw [hafter] at hopen
          have hb' : b' ≠ 0x5D := fun hclose => hopen after' (by rw [hclose])
          rw [skipSpaces_append hafter, hafter]
          simp [hb']
      · cases h

/-- `nextKey` that succeeds is unaffected by `more` behind. -/
theorem nextKey_append {first : Bool} {next? : Option (List UInt8)}
    (h : nextKey first bytes = .ok next?) (more : List UInt8) :
    nextKey first (bytes ++ more) = .ok (next?.map (· ++ more)) := by
  rw [nextKey] at h
  split at h
  · cases h
  · rename_i hfront
    cases h
    rw [nextKey, skipSpaces_append hfront]
    rfl
  · rename_i after hfront
    rw [nextKey, skipSpaces_append hfront]
    cases first with
    | true => cases h; rfl
    | false => cases h
  · rename_i after hfront
    rw [nextKey, skipSpaces_append hfront]
    cases first with
    | true => cases h
    | false =>
      simp only [Bool.false_eq_true, if_false] at h ⊢
      split at h
      · cases h
      · rename_i hkey
        cases h
        rw [skipSpaces_append hkey]
        rfl
      · cases h
  · cases h

/-- `afterColon` that succeeds is unaffected by `more` behind. -/
theorem afterColon_append (h : afterColon bytes = .ok rest) (more : List UInt8) :
    afterColon (bytes ++ more) = .ok (rest ++ more) := by
  rw [afterColon] at h
  split at h
  · cases h
  · rename_i hfront
    cases h
    rw [afterColon, skipSpaces_append hfront]
    rfl
  · cases h

/-- `closing` that succeeds is unaffected by `more` behind. -/
theorem closing_append {close : UInt8} (h : closing close bytes = .ok rest) (more : List UInt8) :
    closing close (bytes ++ more) = .ok (rest ++ more) := by
  rw [closing] at h
  split at h
  · cases h
  · rename_i b after hfront
    rw [closing, skipSpaces_append hfront]
    split at h
    · rename_i hb
      cases h
      exact if_pos hb
    · cases h

/-! ## Records -/

/-- What the reader takes is settled by the bytes it takes: behind them anything may come. -/
def Settled (read : Reader α) : Prop :=
  ∀ ⦃bytes v rest⦄, read bytes = .ok (v, rest) →
    ∀ more, read (bytes ++ more) = .ok (v, rest ++ more)

/-- `Reader.string` is `Settled`. -/
theorem settled_string : Settled string := by
  intro bytes s rest h more
  rw [string] at h
  split at h
  · rename_i after hfront
    rw [string, skipSpaces_append hfront]
    exact scanString_append h more
  · cases h

/-- `Settled` through `Reader.filterMap`. -/
theorem Settled.filterMap {read : Reader α} (hread : Settled read) (f : α → Option β) :
    Settled (read.filterMap f) := by
  intro bytes w rest h more
  rw [Reader.filterMap] at h
  split at h
  · cases h
  · rename_i v after hv
    rw [Reader.filterMap, hread hv more]
    cases hw : f v with
    | none => simp only [hw, reduceCtorEq] at h
    | some w' =>
      simp only [hw] at h ⊢
      cases h
      rfl

section
variable {σ : Type} {fields : List (Field σ)} {record record' : σ}

/-- `Settled` through `Field.into`. -/
theorem Settled.into {read : Reader α} (hread : Settled read) (key : String) (set : α → σ → σ)
    (record : σ) : Settled ((Field.into key read set).read record) := by
  intro bytes record' rest h more
  simp only [Field.into] at h ⊢
  cases hv : read bytes with
  | error e => simp [hv, Except.map] at h
  | ok p =>
    obtain ⟨v, after⟩ := p
    rw [hv] at h
    cases h
    rw [hread hv more]
    rfl

/-- The ways in which `Reader.members` succeeds: at the end of the object, or behind a key with its
colon and a value, which the field of this key reads for the first time or which is skipped, and
then further members. -/
theorem members_eq_ok_iff {fuel : Nat} {seen : List String} {first : Bool} :
    members fields (fuel + 1) seen first record bytes = .ok (record', rest) ↔
      (nextKey first bytes = .ok none ∧ record' = record ∧ rest = bytes)
      ∨ ∃ named key colon value, nextKey first bytes = .ok (some named)
        ∧ scanString named = .ok (key, colon) ∧ afterColon colon = .ok value
        ∧ ((∃ field record'' after, fields.find? (·.key == key) = some field
            ∧ seen.contains key = false ∧ field.read record value = .ok (record'', after)
            ∧ members fields fuel (key :: seen) false record'' after = .ok (record', rest))
          ∨ ∃ after, fields.find? (·.key == key) = none ∧ skipValue value = .ok after
            ∧ members fields fuel seen false record after = .ok (record', rest)) := by
  rw [members]
  constructor
  · intro h
    obtain ⟨next?, hnext, h⟩ := bind_eq_ok_iff.1 h
    cases next? with
    | none =>
      cases h
      exact .inl ⟨hnext, rfl, rfl⟩
    | some named =>
      obtain ⟨⟨key, colon⟩, hkey, h⟩ := bind_eq_ok_iff.1 h
      refine .inr ⟨named, key, colon, ?_⟩
      simp only at h
      split at h
      · rename_i field hfield
        split at h
        · cases h
        · rename_i hseen
          obtain ⟨value, hcolon, h⟩ := bind_eq_ok_iff.1 h
          obtain ⟨⟨record'', after⟩, hread, h⟩ := bind_eq_ok_iff.1 h
          exact ⟨value, hnext, hkey, hcolon,
            .inl ⟨field, record'', after, hfield, by simpa using hseen, hread, h⟩⟩
      · rename_i hfield
        obtain ⟨value, hcolon, h⟩ := bind_eq_ok_iff.1 h
        obtain ⟨after, hskip, h⟩ := bind_eq_ok_iff.1 h
        exact ⟨value, hnext, hkey, hcolon, .inr ⟨after, hfield, hskip, h⟩⟩
  · rintro (⟨hend, rfl, rfl⟩ | ⟨named, key, colon, value, hnamed, hkey, hcolon, hvalue⟩)
    · exact bind_eq_ok_iff.2 ⟨none, hend, rfl⟩
    · refine bind_eq_ok_iff.2 ⟨some named, hnamed, bind_eq_ok_iff.2 ⟨(key, colon), hkey, ?_⟩⟩
      obtain ⟨field, record'', after, hfield, hseen, hread, h⟩ | ⟨after, hfield, hskip, h⟩ := hvalue
      · simp only [hfield, hseen, Bool.false_eq_true, if_false]
        exact bind_eq_ok_iff.2 ⟨value, hcolon, bind_eq_ok_iff.2 ⟨(record'', after), hread, h⟩⟩
      · simp only [hfield]
        exact bind_eq_ok_iff.2 ⟨value, hcolon, bind_eq_ok_iff.2 ⟨after, hskip, h⟩⟩

/-- `Reader.members` of settled fields that succeeds is unaffected by `more` behind. -/
theorem members_append
    (hfields : ∀ field ∈ fields, ∀ record, Settled (field.read record))
    {fuel fuel' : Nat} (hfuel : fuel ≤ fuel') {seen : List String} {first : Bool}
    (h : members fields fuel seen first record bytes = .ok (record', rest)) (more : List UInt8) :
    members fields fuel' seen first record (bytes ++ more) = .ok (record', rest ++ more) := by
  induction fuel generalizing fuel' seen first record bytes with
  | zero => cases h
  | succ fuel ih =>
    obtain ⟨fuel', rfl⟩ : ∃ further, fuel' = further + 1 := ⟨fuel' - 1, by omega⟩
    have hless : fuel ≤ fuel' := by omega
    rw [members_eq_ok_iff] at h ⊢
    obtain ⟨hend, rfl, rfl⟩ | ⟨named, key, colon, value, hnamed, hkey, hcolon, hvalue⟩ := h
    · exact .inl ⟨nextKey_append hend more, rfl, rfl⟩
    · refine .inr ⟨_, key, _, _, nextKey_append hnamed more, scanString_append hkey more,
        afterColon_append hcolon more, ?_⟩
      obtain ⟨field, record'', after, hfield, hseen, hread, hrest⟩ | ⟨after, hfield, hskip, hrest⟩
        := hvalue
      · have hsettled := hfields field (List.mem_of_find?_eq_some hfield) record
        exact .inl ⟨field, record'', _, hfield, hseen, hsettled hread more, ih hless hrest⟩
      · -- Members do not end with the text, so a value that is skipped does not either.
        have hleft : after ≠ [] := by
          rintro rfl
          cases fuel <;> cases hrest
        exact .inr ⟨_, hfield, skipValue_append hskip hleft more, ih hless hrest⟩

/-- `Reader.entries` of settled fields that succeeds is unaffected by `more` behind. -/
theorem entries_append (hfields : ∀ field ∈ fields, ∀ record, Settled (field.read record))
    {first : Bool} (h : entries fields first record bytes = .ok (record', rest))
    (more : List UInt8) :
    entries fields first record (bytes ++ more) = .ok (record', rest ++ more) := by
  induction fields generalizing first record bytes with
  | nil =>
    cases h
    rfl
  | cons field fields ih =>
    obtain ⟨hfield, hfields⟩ := List.forall_mem_cons.1 hfields
    rw [entries] at h ⊢
    obtain ⟨next?, hnext, h⟩ := bind_eq_ok_iff.1 h
    refine bind_eq_ok_iff.2 ⟨_, nextItem_append hnext more, ?_⟩
    cases next? with
    | none =>
      cases h
      rfl
    | some item =>
      obtain ⟨⟨record'', after⟩, hread, h⟩ := bind_eq_ok_iff.1 h
      exact bind_eq_ok_iff.2 ⟨_, hfield record hread more, ih hfields h⟩

/-- What the fields come to in front of the closing byte. -/
def finished (finish : σ → Option α) (close : UInt8) (state : σ) : Reader α := fun bytes =>
  match finish state with
  | none => .error .mismatch
  | some v => do return (v, ← closing close bytes)

/-- `finished` is `Settled`. -/
theorem settled_finished (finish : σ → Option α) (close : UInt8) (state : σ) :
    Settled (finished finish close state) := by
  intro bytes v rest h more
  rw [finished] at h ⊢
  cases hv : finish state with
  | none => simp only [hv, reduceCtorEq] at h
  | some v' =>
    simp only [hv] at h
    obtain ⟨after, hclose, h⟩ := bind_eq_ok_iff.1 h
    cases h
    exact bind_eq_ok_iff.2 ⟨_, closing_append hclose more, rfl⟩

end

/-- `Reader.record` of settled fields is `Settled`. -/
theorem Settled.record {fields : List (Field σ)} {start : σ} {finish : σ → Option α}
    (hfields : ∀ field ∈ fields, ∀ record, Settled (field.read record)) :
    Settled (Reader.record fields start finish) := by
  intro bytes v rest h more
  rw [Reader.record] at h
  split at h
  · rename_i after hfront
    rw [Reader.record, skipSpaces_append hfront]
    obtain ⟨⟨state, after'⟩, hstate, h⟩ := bind_eq_ok_iff.1 h
    have hfuel : after.length + 1 ≤ (after ++ more).length + 1 := by simp
    exact bind_eq_ok_iff.2
      ⟨_, members_append hfields hfuel hstate more, settled_finished finish _ _ h more⟩
  · rename_i after hfront
    rw [Reader.record, skipSpaces_append hfront]
    obtain ⟨⟨state, after'⟩, hstate, h⟩ := bind_eq_ok_iff.1 h
    exact bind_eq_ok_iff.2
      ⟨_, entries_append hfields hstate more, settled_finished finish _ _ h more⟩
  · cases h

/-- `Reader.run` fails on a proper prefix of a text that a `Settled` reader takes to its end. -/
theorem Settled.run_cut {read : Reader α} (hread : Settled read) {front back : List UInt8} {v : α}
    (h : read (front ++ back) = .ok (v, [])) (hback : back ≠ []) :
    ∃ e, read.run front = .error e := by
  cases hrun : read.run front with
  | error e => exact ⟨e, rfl⟩
  | ok v' =>
    obtain ⟨⟨w, rest⟩, hfront, -⟩ := bind_eq_ok_iff.1 hrun
    have hwhole := hread hfront back
    rw [h, Except.ok.injEq, Prod.mk.injEq] at hwhole
    exact absurd (List.append_eq_nil_iff.1 hwhole.2.symm).2 hback

end Reader

end Json

end NotePager

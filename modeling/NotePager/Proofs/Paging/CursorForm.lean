import NotePager.Proofs.Json.Taken
import NotePager.Proofs.Paging.CutCursor

/-!
# The two forms of cursors

A string is a cursor in one form at most (`Cursor.formats_apart`). The digits of an identifier are
characters of the URL form as well, and they stand for some bytes, which may even start like a
payload. But they stand for three bytes where they are four characters, and no payload is so short:
it spells an identifier, with one byte at least for each digit. The other way round, a payload
begins with a brace and a quote, and no digit stands for the bits where they meet.
-/

namespace NotePager

open Encoding Json

namespace Cursor

/-- `payloadReader` `Takes` a byte at least for each digit of the identifier. -/
theorem takes_payloadReader : Reader.Takes (fun _ => 2 * NoteId.size) payloadReader := by
  let worth (p : Option String × Option NoteId) : Nat := if p.2.isSome then 2 * NoteId.size else 0
  refine Reader.Takes.record worth ?_ rfl fun (title?, id?) v hv => ?_
  · rw [List.forall_mem_cons, List.forall_mem_singleton]
    constructor
    · exact Reader.takes_string.into _ fun v p => Nat.le_add_right _ _
    · exact NoteId.takes_reader.into _ fun v p => Nat.le_add_left _ _
  · cases title? with
    | none => cases hv
    | some title =>
      cases id? with
      | none => cases hv
      | some id => exact Nat.le_refl _

/-- What `NoteId.ofHex` reads is refused as a payload by `Cursor.decode` for the title: it is in URL
form, and too short. -/
theorem decode_title_of_ofHex {raw : String} {id : NoteId} (h : NoteId.ofHex raw = .ok id) :
    ∃ fault, decode raw .title = .error (.payload fault) := by
  obtain ⟨hchars, hlength⟩ := NoteId.isAlphanum_of_ofHex h
  rw [← String.length_toList] at hlength
  obtain ⟨bytes, hbytes⟩ := Base64Url.exists_decode hchars (by rw [hlength]; rfl)
  have hshort := Base64Url.length_of_decode hbytes
  have hform : SortBy.title.carriesTitle = true := rfl
  cases hrun : payloadReader.run bytes with
  | error fault => exact ⟨fault, by simp only [decode, hform, if_true, hbytes, hrun]⟩
  | ok v =>
    have hlong : 2 * NoteId.size ≤ bytes.length := takes_payloadReader.run hrun
    rw [hlength] at hshort
    simp only [NoteId.size] at hshort hlong
    omega

/-- The string of a `titled` cursor is refused as hexadecimal by `Cursor.decode` for a sort without
titles. -/
theorem decode_encode_titled (title : String) (id : NoteId) {sort : SortBy}
    (hform : sort.carriesTitle = false) :
    ∃ cause, decode (titled title id).encode sort = .error (.id (.hex cause)) := by
  obtain ⟨rest, hrest⟩ : ∃ rest, (payload title id).bytes = 0x7B :: 0x22 :: 0x74 :: rest := by
    rw [bytes_payload]
    exact ⟨_, rfl⟩
  have hsecond : 'y' ∈ Base64Url.encode (payload title id).bytes := by
    have hvalue : 50 ∈ Base64Url.sextets (payload title id).bytes := by
      simp [hrest, Base64Url.sextets]
    rw [Base64Url.encode_eq]
    exact List.mem_map.2 ⟨50, hvalue, rfl⟩
  have hbyte : 0x79 ∈ Text.utf8 (titled title id).encode := by
    rw [encode, Text.utf8_ofList]
    exact List.mem_flatMap.2 ⟨'y', hsecond, by decide⟩
  obtain ⟨cause, hcause⟩ := NoteId.ofHex_of_not_digit hbyte (by decide)
  exact ⟨cause, by simp only [decode, hform, Bool.false_eq_true, if_false, hcause]⟩

/-- What `Cursor.decode` reads for a sort without titles it refuses as a payload for the title. -/
theorem decode_title_of_decode {raw : String} {sort : SortBy} {c : Cursor}
    (hform : sort.carriesTitle = false) (h : decode raw sort = .ok c) :
    ∃ fault, decode raw .title = .error (.payload fault) := by
  cases hid : NoteId.ofHex raw with
  | error e => simp only [decode, hform, Bool.false_eq_true, if_false, hid, reduceCtorEq] at h
  | ok id => exact decode_title_of_ofHex hid

/-- What `Cursor.decode` reads for one sort it refuses for a sort that differs in `carriesTitle`. -/
theorem decode_otherForm {raw : String} {sort sort' : SortBy} {c : Cursor}
    (h : decode raw sort = .ok c) (hother : sort'.carriesTitle ≠ sort.carriesTitle) :
    ∃ cause, decode raw sort' = .error cause := by
  have htitle (sort : SortBy) (hform : sort.carriesTitle = true) : sort = .title := by
    simpa [SortBy.carriesTitle] using hform
  cases hform : sort.carriesTitle with
  | false =>
    rw [hform, Bool.ne_false_iff] at hother
    obtain ⟨fault, hfault⟩ := decode_title_of_decode hform h
    exact ⟨_, htitle sort' hother ▸ hfault⟩
  | true =>
    rw [hform, ne_eq, Bool.not_eq_true] at hother
    cases hread : decode raw sort' with
    | error cause => exact ⟨cause, rfl⟩
    | ok c' =>
      obtain ⟨fault, hfault⟩ := decode_title_of_decode hother hread
      rw [htitle sort hform] at h
      cases hfault.symm.trans h

end Cursor

namespace Parameters

variable {p : Parameters} {r : ListRequest} {raw : String} {sort : SortBy}

/-- The cursor or the anchor of parameters that `validate` is read by `Cursor.decode` for their
sort. -/
theorem exists_decode (h : p.validate = .ok r)
    (hgiven : p.cursor = some raw ∨ p.anchor = some raw) :
    ∃ c, Cursor.decode raw r.sort = .ok c := by
  have hsort : r.sort = p.namedSort := eq_namedSort (validate_eq_ok_iff.1 h).2.1
  have hpasses := (validate_makes p).ok_iff.1 ⟨r, h⟩
  rw [hsort]
  rcases hgiven with hcursor | hanchor
  · exact hpasses .cursor (by decide) raw hcursor
  · exact hpasses .anchor (by decide) raw hanchor

/-- Parameters that `validate` pass, with another sort, every `ParameterCheck` but those of the
anchor and the cursor. -/
theorem passes_withSort (h : p.validate = .ok r) (sort : SortBy) (check : ParameterCheck)
    (hanchor : check ≠ .anchor) (hcursor : check ≠ .cursor) :
    check.Passes { p with sort := some sort.name } := by
  have hpasses : check.Passes p :=
    (validate_makes p).ok_iff.1 ⟨r, h⟩ check (by cases check <;> decide)
  cases check with
  | sort =>
    intro name hname
    cases hname
    exact SortBy.mem_names_iff.2 ⟨sort, sort.ofName?_name⟩
  | anchor => cases hanchor rfl
  | cursor => cases hcursor rfl
  | _ => exact hpasses

/-- Parameters that `validate` and name a cursor or an anchor come to `invalidCursor` with a sort
that differs in `carriesTitle`. -/
theorem validate_otherForm (h : p.validate = .ok r)
    (hgiven : p.cursor = some raw ∨ p.anchor = some raw)
    (hother : sort.carriesTitle ≠ r.sort.carriesTitle) :
    ∃ cause, { p with sort := some sort.name }.validate = .error (.invalidCursor cause) := by
  obtain ⟨c, hc⟩ := exists_decode h hgiven
  have hnamed : { p with sort := some sort.name }.namedSort = sort := by
    simp only [namedSort, Option.bind_some, SortBy.ofName?_name, Option.getD_some]
  have hraw : ∃ cause, Cursor.decode raw { p with sort := some sort.name }.namedSort
      = .error cause := by
    rw [hnamed]
    exact Cursor.decode_otherForm hc hother
  refine (validate_unreadable hraw hgiven).2 fun check hcheck => ?_
  exact passes_withSort h sort check (fun heq => hcheck (heq ▸ .head _))
    fun heq => hcheck (heq ▸ .tail _ (.head _))

end Parameters

namespace Cursor

/-- `Cursor.decode` takes neither form for the other. The string of `Cursor.note` is refused as a
payload for the title, and the string of `Cursor.titled` as hexadecimal for the other sorts, for any
identifier and any title. No string at all is read for two sorts that differ in `carriesTitle`. So
parameters that `validate` and keep their cursor or anchor come to `invalidCursor` with such a sort,
whatever else they ask for. -/
theorem formats_apart :
    (∀ id, ∃ fault, decode (note id).encode .title = .error (.payload fault))
    ∧ (∀ title id, ∀ sort ∈ [SortBy.createdAt, .updatedAt],
        ∃ cause, decode (titled title id).encode sort = .error (.id (.hex cause)))
    ∧ (∀ raw sort sort' c, decode raw sort = .ok c → sort'.carriesTitle ≠ sort.carriesTitle →
        ∃ cause, decode raw sort' = .error cause)
    ∧ ∀ (p : Parameters) (r : ListRequest) (raw : String) (sort : SortBy), p.validate = .ok r →
        p.cursor = some raw ∨ p.anchor = some raw → sort.carriesTitle ≠ r.sort.carriesTitle →
        ∃ cause, { p with sort := some sort.name }.validate = .error (.invalidCursor cause) := by
  refine ⟨fun id => decode_title_of_ofHex id.ofHex_toHex, fun title id sort hsort => ?_,
    fun raw sort sort' c => decode_otherForm, fun p r raw sort => Parameters.validate_otherForm⟩
  refine decode_encode_titled title id ?_
  rcases List.mem_pair.1 hsort with rfl | rfl <;> rfl

/-- `formats_apart` for an identifier whose digits stand for bytes that begin with an object in
braces: a cursor by the time of the last change, and none by title. -/
theorem formats_apart_braces :
    let id : NoteId := ⟨0xe30000000000000000000000⟩
    (Base64Url.decode (note id).encode.toList).map (List.take 2) = some [0x7B, 0x7D]
      ∧ (∃ fault, decode (note id).encode .title = .error (.payload fault))
      ∧ (∃ cause, decode (titled "{}" id).encode .createdAt = .error (.id (.hex cause)))
      ∧ ∃ cause, Parameters.validate
          { cursor := some "e30000000000000000000000", direction := some "prev",
            sort := some "title" }
        = .error (.invalidCursor cause) := by
  intro id
  obtain ⟨hnote, htitled, -, hvalidate⟩ := formats_apart
  have hvalid : ∃ r : ListRequest, r.sort = .updatedAt ∧ Parameters.validate
      { cursor := some "e30000000000000000000000", direction := some "prev",
        sort := some "updated_at" } = .ok r :=
    ⟨{ start := .cursor (some (note id)) .prev, sort := .updatedAt }, rfl, by decide +kernel⟩
  obtain ⟨r, hsort, hr⟩ := hvalid
  exact ⟨by decide +kernel, hnote id, htitled _ _ _ (.head _),
    hvalidate _ r _ .title hr (.inl rfl) (by rw [hsort]; decide)⟩

end Cursor

end NotePager

import NotePager.Proofs.Json.Settled
import NotePager.Proofs.Paging.Validation

/-!
# Cursors that have been cut

A cursor of which the end is missing is no cursor (`Cursor.decode_cut`), wherever it was cut. An
identifier then has too few digits. The URL form of a payload may well be read when it is cut, but
only as the front of the payload, and no payload ends before the brace that closes it.
-/

namespace NotePager

open Encoding Json

namespace Cursor

/-- `payloadReader` is `Settled`: it ends at the closing brace, whatever follows. -/
theorem settled_payloadReader : Reader.Settled payloadReader := by
  refine .record ?_
  rw [List.forall_mem_cons, List.forall_mem_singleton]
  exact ⟨Reader.settled_string.into _ _, (Reader.settled_string.filterMap _).into _ _⟩

/-- `Cursor.decode` refuses every front of `Cursor.encode` but the whole, for a sort that the cursor
`Fits`. -/
theorem decode_cut {c : Cursor} {sort : SortBy} {front back : String} (hfits : c.Fits sort)
    (hcut : front ++ back = c.encode) (hback : back ≠ "") :
    ∃ cause, decode front sort = .error cause := by
  cases c with
  | note id =>
    have hform : sort.carriesTitle = false := fits_iff.1 hfits
    obtain ⟨e, he⟩ := NoteId.ofHex_cut hcut hback
    exact ⟨.id e, by simp only [decode, hform, Bool.false_eq_true, if_false, he]⟩
  | titled title id =>
    have hform : sort.carriesTitle = true := fits_iff.1 hfits
    have hchars : front.toList ++ back.toList = Base64Url.encode (payload title id).bytes := by
      rw [← String.toList_append, hcut, encode, String.toList_ofList]
    have hmissing : back.toList ≠ [] := by simpa using hback
    cases hread : Base64Url.decode front.toList with
    | none => exact ⟨.encoding, by simp only [decode, hform, if_true, hread]⟩
    | some read =>
      obtain ⟨rest, hrest, hbytes⟩ := Base64Url.decode_cut hchars hmissing hread
      have hwhole : payloadReader (read ++ rest) = .ok ((title, id), []) := by
        rw [hbytes, read_payload]
      obtain ⟨e, he⟩ := settled_payloadReader.run_cut hwhole hrest
      exact ⟨.payload e, by simp only [decode, hform, if_true, hread, he]⟩

end Cursor

/-- Parameters whose cursor or anchor `Cursor.decode` refuses for their sort do not `validate`. If
they pass every `ParameterCheck` before it, they come to `invalidCursor`. -/
theorem Parameters.validate_unreadable {p : Parameters} {raw : String}
    (hraw : ∃ cause, Cursor.decode raw p.namedSort = .error cause)
    (hgiven : p.cursor = some raw ∨ p.anchor = some raw) :
    (∀ r, p.validate ≠ .ok r)
      ∧ ((∀ check ∉ [ParameterCheck.anchor, .cursor, .search], check.Passes p) →
        ∃ cause, p.validate = .error (.invalidCursor cause)) := by
  obtain ⟨cause, hcause⟩ := hraw
  have hmakes := validate_makes p
  rcases hgiven with hcursor | hanchor
  · have hfail : ¬ ParameterCheck.cursor.Passes p := by
      simp [ParameterCheck.Passes, hcursor, hcause]
    refine ⟨fun r hr => hfail (hmakes.ok_iff.1 ⟨r, hr⟩ .cursor (by decide)),
      fun hpass => ⟨cause, hmakes.error_iff.2 ?_⟩⟩
    -- With a cursor there is no anchor, so the check of the anchor passes as well.
    have hone : ParameterCheck.onePosition.Passes p := hpass _ (by decide)
    have hanchor : ParameterCheck.anchor.Passes p := by
      cases ha : p.anchor with
      | none => simp [ParameterCheck.Passes, ha]
      | some other => simp [ParameterCheck.Passes, hcursor, ha] at hone
    -- Eleven checks count before that of the cursor.
    have hbefore : ∀ check ∈ ParameterCheck.all.take 11, check.Passes p := by
      have hothers : ∀ check ∈ ParameterCheck.all.take 11, check ≠ .anchor →
          check ∉ [ParameterCheck.anchor, .cursor, .search] := by decide
      intro check hcheck
      by_cases h : check = .anchor
      · rw [h]
        exact hanchor
      · exact hpass check (hothers check hcheck h)
    exact .behind hbefore (.here hfail
      (by simp only [ParameterCheck.error?, hcursor, Option.bind_some,
        ParameterCheck.cursorError?, hcause]))
  · have hfail : ¬ ParameterCheck.anchor.Passes p := by
      simp [ParameterCheck.Passes, hanchor, hcause]
    refine ⟨fun r hr => hfail (hmakes.ok_iff.1 ⟨r, hr⟩ .anchor (by decide)),
      fun hpass => ⟨cause, hmakes.error_iff.2 ?_⟩⟩
    -- Nine count before that of the anchor.
    have hbefore : ∀ check ∈ ParameterCheck.all.take 9, check.Passes p := by
      have hothers : ∀ check ∈ ParameterCheck.all.take 9,
          check ∉ [ParameterCheck.anchor, .cursor, .search] := by decide
      exact fun check hcheck => hpass check (hothers check hcheck)
    exact .behind hbefore (.here hfail
      (by simp only [ParameterCheck.error?, hanchor, Option.bind_some,
        ParameterCheck.cursorError?, hcause]))

namespace Cursor

/-- `Cursor.decode` refuses every front of `Cursor.encode` but the whole, of a `titled` cursor for
the title and of a `note` cursor for the other sorts, also when nothing is left of it. Parameters
that name such a front as their cursor or anchor do not `validate`, and come to `invalidCursor` if
they pass every `ParameterCheck` before it. -/
theorem cut_refused :
    (∀ title id (front back : String), front ++ back = (titled title id).encode → back ≠ "" →
        ∃ cause, decode front .title = .error cause)
    ∧ (∀ id (front back : String), front ++ back = (note id).encode → back ≠ "" →
        ∀ sort ∈ [SortBy.createdAt, .updatedAt], ∃ cause, decode front sort = .error cause)
    ∧ ∀ (p : Parameters) (c : Cursor) (front back : String), c.Fits p.namedSort →
        front ++ back = c.encode → back ≠ "" → p.cursor = some front ∨ p.anchor = some front →
        (∀ r, p.validate ≠ .ok r)
        ∧ ((∀ check ∉ [ParameterCheck.anchor, .cursor, .search], check.Passes p) →
          ∃ cause, p.validate = .error (.invalidCursor cause)) := by
  refine ⟨fun title id front back hcut hback => ?_, fun id front back hcut hback sort hsort => ?_,
    fun p c front back hfits hcut hback hgiven => ?_⟩
  · have hfits : (titled title id).Fits .title := rfl
    exact decode_cut hfits hcut hback
  · have hfits : (note id).Fits sort := by
      rcases List.mem_pair.1 hsort with rfl | rfl <;> exact SortBy.noConfusion
    exact decode_cut hfits hcut hback
  · exact Parameters.validate_unreadable (decode_cut hfits hcut hback) hgiven

/-- `cut_refused` for a titled cursor without its last four characters, which is in URL form. -/
theorem cut_refused_group :
    let front := "eyJ0aXRsZSI6ImEiLCJpZCI6IjAwMDAwMDAwMDAwMDAwMDAwMDAwMDAw"
    front ++ "MSJ9" = (titled "a" ⟨1⟩).encode ∧ (Base64Url.decode front.toList).isSome = true
      ∧ (∃ cause, decode front .title = .error cause)
      ∧ (∃ cause, decode "00000000000000000000000" .updatedAt = .error cause)
      ∧ ∃ cause, Parameters.validate { cursor := some front, sort := some "title" }
          = .error (.invalidCursor cause) := by
  intro front
  obtain ⟨htitled, hnote, hvalidate⟩ := cut_refused
  have hcut : front ++ "MSJ9" = (titled "a" ⟨1⟩).encode := by decide +kernel
  refine ⟨hcut, by decide +kernel, htitled _ _ _ _ hcut (by decide), ?_, ?_⟩
  · exact hnote ⟨1⟩ _ "1" (by decide +kernel) (by decide) _ (by simp)
  · refine (hvalidate _ (titled "a" ⟨1⟩) _ _ ?_ hcut (by decide) (.inl rfl)).2 ?_
    · rfl
    intro check hcheck
    cases check <;> simp [ParameterCheck.Passes] at hcheck ⊢

end Cursor

end NotePager

import NotePager.Paging.Parameters
import NotePager.Proofs.Http.QueryString
import NotePager.Proofs.Paging.Cursor

/-!
# Cursors on their way

A cursor leaves as a string in one reply and comes back in the query string of another request. On
the way nothing happens to it: the string is never empty, which would make the parameter absent
(`Cursor.encode_ne_empty`), and its characters have no meaning of their own in a query string
(`Cursor.isPlain_encode`).
Whatever strings come instead, those that a sort reads as a cursor it reads as one of its own.
-/

namespace NotePager

open Encoding Http Text

namespace Cursor

/-- The characters of `Cursor.encode` are `IsPlain`. -/
theorem isPlain_encode (c : Cursor) : ∀ ch ∈ c.encode.toList, IsPlain ch := by
  intro ch hch
  cases c with
  | note id => exact .inl (Hex.isAlphanum_text _ _ ch hch)
  | titled title id =>
    rw [encode, String.toList_ofList] at hch
    exact Base64Url.alphabet_encode ch hch

/-- `Cursor.encode` is never the empty string, which `Cursor.decode` refuses. -/
theorem encode_ne_empty (c : Cursor) : c.encode ≠ "" := by
  have hnothing : ∀ sort, (decode "" sort).toOption = none := fun sort => by cases sort <;> rfl
  obtain ⟨sort, hsort⟩ : ∃ sort : SortBy, sort.carriesTitle = c.title?.isSome := by
    cases c with
    | note id => exact ⟨.createdAt, rfl⟩
    | titled title id => exact ⟨.title, rfl⟩
  intro hempty
  have hread := decode_encode hsort
  have hnone := hnothing sort
  rw [hempty] at hread
  rw [hread] at hnone
  cases hnone

/-- What `Cursor.decode` reads carries a title if and only if the sort `carriesTitle`. -/
theorem title?_of_decode {raw : String} {sort : SortBy} {c : Cursor}
    (h : decode raw sort = .ok c) : sort.carriesTitle = c.title?.isSome := by
  cases hsort : sort.carriesTitle with
  | true =>
    simp only [decode, hsort, if_true] at h
    split at h
    · cases h
    · split at h
      · cases h
      · cases h
        rfl
  | false =>
    simp only [decode, hsort, Bool.false_eq_true, if_false] at h
    split at h
    · cases h
    · cases h
      rfl

/-- `Cursor.decode` reads a `titled` cursor back from `Cursor.encode` with up to as many signs of
padding as the last group lacks. -/
theorem decode_encode_padded (title : String) (id : NoteId) {k : Nat}
    (hk : k ≤ (4 - (titled title id).encode.length % 4) % 4) :
    decode ((titled title id).encode ++ String.ofList (List.replicate k '=')) .title
      = .ok (titled title id) := by
  have hroom : k ≤ (4 - (Base64Url.encode (payload title id).bytes).length % 4) % 4 := by
    rwa [encode, String.length_ofList] at hk
  have hcarries : SortBy.carriesTitle .title = true := rfl
  simp only [decode, hcarries, encode, String.toList_append, String.toList_ofList,
    Base64Url.decode_encode_padded _ hroom, run_payload, if_true]

/-- `Cursor.encode` is faithful. `Cursor.decode` reads the cursor back for the sorts that use its
form, whatever its title, and from a string with some of the padding too. The string is never empty
and consists of letters, digits, hyphens and underscores, so `Parameters.set` takes it for present,
and `queryPairs` gives it back unaltered, whatever else the query string holds. What `Cursor.decode`
reads for a sort is of the form of that sort, and is read back from its own string. -/
theorem encode_faithful :
    (∀ id, ∀ sort ∈ [SortBy.createdAt, .updatedAt], decode (note id).encode sort = .ok (note id))
    ∧ (∀ title id, decode (titled title id).encode .title = .ok (titled title id))
    ∧ (∀ title id k, k ≤ (4 - (titled title id).encode.length % 4) % 4 →
        decode ((titled title id).encode ++ String.ofList (List.replicate k '=')) .title
          = .ok (titled title id))
    ∧ (∀ c : Cursor, c.encode ≠ ""
        ∧ (∀ ch ∈ c.encode.toList, ch.isAlphanum = true ∨ ch = '-' ∨ ch = '_')
        ∧ (∀ p : Parameters, p.set .cursor c.encode = .ok { p with cursor := some c.encode })
        ∧ ∀ front back : List (List UInt8),
          queryPairs ([0x26].intercalate (front ++ utf8 ("cursor=" ++ c.encode) :: back))
            = front.flatMap queryPairs ++ ("cursor", c.encode) :: back.flatMap queryPairs)
    ∧ ∀ raw sort c, decode raw sort = .ok c →
        (match sort with
          | .title => ∃ title id, c = titled title id
          | .createdAt | .updatedAt => ∃ id, c = note id)
        ∧ decode c.encode sort = .ok c := by
  refine ⟨fun id sort hsort => ?_, fun title id => ?_, fun title id k hk => ?_,
    fun c => ⟨?_, ?_, fun p => ?_, fun front back => ?_⟩, fun raw sort c hc => ⟨?_, ?_⟩⟩
  · have hform : sort.carriesTitle = false := by
      rcases List.mem_pair.1 hsort with rfl | rfl
      · rfl
      · rfl
    exact decode_encode hform
  · exact decode_encode rfl
  · exact decode_encode_padded title id hk
  · exact c.encode_ne_empty
  · exact c.isPlain_encode
  · have hgiven : c.encode.isEmpty = false := by
      rw [Bool.eq_false_iff, ne_eq, String.isEmpty_iff]
      exact c.encode_ne_empty
    simp only [Parameters.set, hgiven, Bool.false_eq_true, if_false, Parameters.setTo]
  · have hletters : "cursor".toList.all (fun ch => decide (IsPlain ch)) = true := by decide
    have hkey : ∀ ch ∈ "cursor".toList, IsPlain ch := fun ch hch =>
      of_decide_eq_true (List.all_eq_true.1 hletters ch hch)
    have hpair := queryPairs_plain hkey c.isPlain_encode
    have hname : "cursor=" ++ c.encode = "cursor" ++ "=" ++ c.encode := rfl
    rw [queryPairs_intercalate, List.flatMap_append, List.flatMap_cons, hname, hpair,
      List.singleton_append]
  · have hform := title?_of_decode hc
    cases c with
    | note id =>
      cases sort with
      | createdAt => exact ⟨id, rfl⟩
      | updatedAt => exact ⟨id, rfl⟩
      | title => cases hform
    | titled title id =>
      cases sort with
      | createdAt => cases hform
      | updatedAt => cases hform
      | title => exact ⟨title, id, rfl⟩
  · exact decode_encode (title?_of_decode hc)

/-- `encode_faithful` for a title of characters that JSON escapes, in a string that lacks two
characters of its last group of four. -/
theorem encode_faithful_escapes :
    let c := titled "\"\\\n\t" ⟨1⟩
    2 ≤ (4 - c.encode.length % 4) % 4 ∧ decode (c.encode ++ "==") .title = .ok c
      ∧ decode (note ⟨1⟩).encode .updatedAt = .ok (note ⟨1⟩) ∧ decode c.encode .title = .ok c := by
  intro c
  obtain ⟨hnote, -, hpadded, -, hread⟩ := encode_faithful
  have hroom : 2 ≤ (4 - c.encode.length % 4) % 4 := by decide +kernel
  have hback := hpadded _ _ 2 hroom
  exact ⟨hroom, hback, hnote _ _ (by simp), (hread _ _ _ hback).2⟩

end Cursor

end NotePager

import NotePager.Paging.Cursor
import NotePager.Proofs.Encoding.Base64Url
import NotePager.Proofs.Encoding.Hex
import NotePager.Proofs.Json.Text

/-!
# Reading back cursors

A cursor is read back from its string by the sort it was made for, whatever the title it carries
(`Cursor.decode_encode_atNote`).
-/

namespace NotePager

open Encoding Json Text

namespace Cursor

/-- The field "title" of `payloadReader` reads the title back from its quoted form and leaves the
rest. -/
theorem read_title (title : String) (rest : List UInt8) (p : Option String × Option NoteId) :
    (Reader.Field.into "title" Reader.string
      fun v (p : Option String × Option NoteId) => (some v, p.2)).read p (quoted title ++ rest)
      = .ok ((some title, p.2), rest) := by
  simp only [Reader.Field.into, Reader.string_quoted, Except.map]

/-- The field "id" of `payloadReader` reads the identifier back from its quoted form and leaves the
rest. -/
theorem read_id (id : NoteId) (rest : List UInt8) (p : Option String × Option NoteId) :
    (Reader.Field.into "id" NoteId.reader
      fun v (p : Option String × Option NoteId) => (p.1, some v)).read p (quoted id.toHex ++ rest)
      = .ok ((p.1, some id), rest) := by
  simp only [Reader.Field.into, NoteId.reader, Reader.filterMap, Reader.string_quoted,
    NoteId.ofHex_toHex, Except.toOption, Except.map]

/-- `Json.quoted` writes two quotes at least. -/
theorem two_le_length_quoted (s : String) : 2 ≤ (quoted s).length := by
  simp [quoted]

/-- The bytes of `payload`: an object with the fields "title" and "id", without spaces. -/
theorem bytes_payload (title : String) (id : NoteId) :
    (payload title id).bytes = 0x7B :: (quoted "title" ++ 0x3A :: (quoted title
      ++ 0x2C :: (quoted "id" ++ 0x3A :: (quoted id.toHex ++ [0x7D])))) := by
  simp only [payload, Json.bytes, membersBytes, List.append_assoc, List.cons_append]

/-- `payloadReader` reads the title and the identifier back from `payload` and leaves nothing. -/
theorem read_payload (title : String) (id : NoteId) :
    payloadReader (payload title id).bytes = .ok ((title, id), []) := by
  have hspaces (rest : List UInt8) : skipSpaces (0x7B :: rest) = 0x7B :: rest := rfl
  rw [bytes_payload, payloadReader, Reader.record, hspaces]
  generalize hrest : quoted "title" ++ 0x3A :: (quoted title
    ++ 0x2C :: (quoted "id" ++ 0x3A :: (quoted id.toHex ++ [0x7D]))) = rest
  -- There is fuel for both members and for the end of the object.
  obtain ⟨fuel, hfuel⟩ : ∃ fuel, rest.length + 1 = fuel + 3 := by
    have hquoted := two_le_length_quoted "title"
    refine ⟨rest.length - 2, ?_⟩
    rw [← hrest, List.length_append]
    omega
  simp only
  rw [hfuel, ← hrest, Reader.members_first rfl rfl (read_title title _ _),
    Reader.members_further rfl rfl (read_id id _ _), Reader.members_end]
  rfl

/-- `payloadReader.run` reads the title and the identifier back from `payload`. -/
theorem run_payload (title : String) (id : NoteId) :
    payloadReader.run (payload title id).bytes = .ok (title, id) := by
  rw [Reader.run, read_payload]
  rfl

/-- `Cursor.decode` reads a cursor back from `Cursor.encode` for a sort whose cursors carry a title
if and only if this one does. -/
theorem decode_encode {c : Cursor} {sort : SortBy} (h : sort.carriesTitle = c.title?.isSome) :
    decode c.encode sort = .ok c := by
  cases c with
  | note id =>
    have hs : sort.carriesTitle = false := h
    simp only [decode, hs, encode, NoteId.ofHex_toHex, Bool.false_eq_true, if_false]
  | titled title id =>
    have hs : sort.carriesTitle = true := h
    simp only [decode, hs, encode, String.toList_ofList, Base64Url.decode_encode, run_payload,
      if_true]

/-- `Cursor.decode` reads back `Cursor.atNote` for the sort that it was made for. -/
theorem decode_encode_atNote (n : Note) (sort : SortBy) :
    decode (atNote n sort).encode sort = .ok (atNote n sort) := by
  refine decode_encode ?_
  cases sort <;> rfl

end Cursor

end NotePager

import Mathlib.Data.List.Forall2
import NotePager.Paging.Page
import NotePager.Proofs.Encoding.Hex
import NotePager.Proofs.Json.RoundTrip
import NotePager.Proofs.Time.Timestamp

/-!
# Reading back notes and pages

A note is read back from its text if its two times are, whatever its strings (`Note.recovers`), and
a page of such notes if its counts are numbers of 64 bits (`Page.recovers`). What a page does not
have is left out of its text, and is absent when the text is read.
-/

namespace NotePager

open Encoding Json

/-! ## Notes -/

/-- `NoteId.reader` recovers an identifier from `NoteId.toHex`. -/
theorem NoteId.recovers (id : NoteId) : NoteId.reader.Recovers (.text id.toHex) id :=
  (Reader.recovers_string id.toHex).filterMap (by rw [id.ofHex_toHex]; rfl)

/-- `Instant.reader` recovers an instant with `IsCommon` from `Timestamp.write`. -/
theorem Instant.recovers {t : Instant} (ht : t.IsCommon) :
    Instant.reader.Recovers (.text (Timestamp.write t)) t :=
  (Reader.recovers_string (Timestamp.write t)).filterMap (Timestamp.read?_write ht)

/-- The times of the note lie in the years 0 to 9999 and are no leap seconds. -/
structure Note.HasCommonTimes (n : Note) : Prop where
  created : n.createdAt.IsCommon
  updated : n.updatedAt.IsCommon

/-- All members of the note have been read. -/
def Note.parts (n : Note) : Parts where
  id := some n.id
  owner := some n.owner.name
  title := some n.title
  body := some n.body
  color := some n.color
  createdAt := some n.createdAt
  updatedAt := some n.updatedAt

/-- `Note.reader` recovers a note with `HasCommonTimes` from `Note.json`. -/
theorem Note.recovers {n : Note} (hn : n.HasCommonTimes) : Note.reader.Recovers n.json n := by
  refine Reader.recovers_record (?_ : Reader.Fills _ [] _ _ n.parts) rfl
  refine .into rfl rfl n.id.recovers ?_
  refine .into rfl rfl (Reader.recovers_string n.owner.name) ?_
  refine .into rfl rfl (Reader.recovers_string n.title) ?_
  refine .into rfl rfl (Reader.recovers_string n.body) ?_
  refine .into rfl rfl (Reader.recovers_string n.color) ?_
  refine .into rfl rfl (Instant.recovers hn.created) ?_
  exact .into rfl rfl (Instant.recovers hn.updated) .nil

/-- `Note.json` writes `created_at` and `updated_at` with the fewest digits after the point, of 0,
3, 6 and 9, that are exact. -/
theorem Note.times_json {n : Note} (hn : n.HasCommonTimes) :
    ∃ members, n.json = .object members
      ∧ ∀ key t, (key, t) ∈ [("created_at", n.createdAt), ("updated_at", n.updatedAt)] →
        ∃ s, (key, .text s) ∈ members ∧ (Timestamp.fractionDigits s).length ∈ [0, 3, 6, 9]
          ∧ numeralValue (Timestamp.fractionDigits s)
              * 10 ^ (9 - (Timestamp.fractionDigits s).length) = t.nanos
          ∧ ∀ k ∈ [0, 3, 6, 9], 10 ^ (9 - k) ∣ t.nanos →
            (Timestamp.fractionDigits s).length ≤ k := by
  refine ⟨_, rfl, fun key t hmem => ⟨Timestamp.write t, ?_, Timestamp.fractionDigits_write ?_⟩⟩
  · rcases List.mem_pair.1 hmem with heq | heq
    · cases heq
      simp
    · cases heq
      simp
  · rcases List.mem_pair.1 hmem with heq | heq
    · cases heq
      exact hn.created
    · cases heq
      exact hn.updated

/-! ## Pages -/

namespace Page

/-- The notes of the page have common times, and its counts are numbers of 64 bits. -/
structure Fits (p : Page) : Prop where
  notes : ∀ n ∈ p.notes, n.HasCommonTimes
  selected : p.totals.selected < UInt64.size
  owned : p.totals.owned < UInt64.size
  offset : ∀ n ∈ p.offset, n < UInt64.size
  windowSize : ∀ n ∈ p.windowSize, n < UInt64.size
  anchorIndex : ∀ n ∈ p.anchorIndex, n < UInt64.size

/-- The members of the page have been read, as far as it has them. -/
def parts (p : Page) : Parts where
  notes := some p.notes
  next := p.next
  prev := p.prev
  hasMore := some p.hasMore
  selected := some p.totals.selected
  owned := some p.totals.owned
  offset := p.offset
  windowSize := p.windowSize
  anchorIndex := p.anchorIndex

/-- `countReader` recovers a count below `UInt64.size`. -/
theorem recovers_count {n : Nat} (hn : n < UInt64.size) :
    countReader.Recovers (count n) n :=
  Reader.recovers_natural hn (Nat.le_refl _)

/-- `Page.reader` recovers a page with `Fits` from `Page.json`. -/
theorem recovers {p : Page} (hp : p.Fits) : Page.reader.Recovers p.json p := by
  have hnotes : List.Forall₂ Note.reader.Recovers (p.notes.map Note.json) p.notes := by
    rw [List.forall₂_map_left_iff, List.forall₂_same]
    exact fun n hn => Note.recovers (hp.notes n hn)
  have htext (s : String) : Reader.string.Recovers (.text s) s ∧ Json.text s ≠ .null :=
    ⟨Reader.recovers_string s, Json.noConfusion⟩
  have hcount {n : Nat} (hn : n < UInt64.size) :
      countReader.Recovers (count n) n ∧ count n ≠ .null := ⟨recovers_count hn, Json.noConfusion⟩
  refine Reader.recovers_record (?_ : Reader.Fills _ [] _ _ p.parts) rfl
  simp only [List.append_assoc, List.cons_append, List.nil_append]
  refine .into rfl rfl (Reader.recovers_list hnotes) ?_
  refine .optional rfl rfl (fun s _ => htext s) rfl ?_
  refine .optional rfl rfl (fun s _ => htext s) rfl ?_
  refine .into rfl rfl (Reader.recovers_boolean p.hasMore) ?_
  refine .into rfl rfl (recovers_count hp.selected) ?_
  refine .into rfl rfl (recovers_count hp.owned) ?_
  refine .optional rfl rfl (fun n hn => hcount (hp.offset n hn)) rfl ?_
  refine .optional rfl rfl (fun n hn => hcount (hp.windowSize n hn)) rfl ?_
  exact .optional_last rfl rfl (fun n hn => hcount (hp.anchorIndex n hn)) rfl rfl

/-- The keys of a page in the order of its members, and whether it has them. -/
def keys (p : Page) : List (String × Bool) := [
  ("notes", true),
  ("next_cursor", p.next.isSome),
  ("prev_cursor", p.prev.isSome),
  ("has_more", true),
  ("total_count", true),
  ("total_count_unfiltered", true),
  ("offset", p.offset.isSome),
  ("window_size", p.windowSize.isSome),
  ("anchor_index", p.anchorIndex.isSome)]

/-- The members of `Page.json` are those of `Page.keys` that the page has. -/
theorem keys_json (p : Page) :
    ∃ members, p.json = .object members
      ∧ members.map Prod.fst = (p.keys.filter Prod.snd).map Prod.fst := by
  have hoptional (key : String) {α : Type} (v : Option α) (f : α → Json) :
      (Json.optional key (v.map f)).map Prod.fst
        = ([(key, v.isSome)].filter Prod.snd).map Prod.fst := by
    cases v <;> rfl
  have hkeys : p.keys = [("notes", true)] ++ [("next_cursor", p.next.isSome)]
      ++ [("prev_cursor", p.prev.isSome)]
      ++ [("has_more", true), ("total_count", true), ("total_count_unfiltered", true)]
      ++ [("offset", p.offset.isSome)] ++ [("window_size", p.windowSize.isSome)]
      ++ [("anchor_index", p.anchorIndex.isSome)] := rfl
  refine ⟨_, rfl, ?_⟩
  simp only [hkeys, List.map_append, List.filter_append, hoptional]
  rfl

end Page

/-- `Note.reader` reads back `Note.json` for every note with `HasCommonTimes`, whatever its strings,
and `Page.reader` reads back `Page.json` for every page with `Fits`, whichever of its optional
members it has. The text of a page has the members that the page has and no others, and the times of
a note are written with the fewest digits after the point, of 0, 3, 6 and 9, that are exact. -/
theorem json_roundTrip :
    (∀ n : Note, n.HasCommonTimes → Note.reader.run n.json.bytes = .ok n)
    ∧ (∀ p : Page, p.Fits → Page.reader.run p.json.bytes = .ok p)
    ∧ (∀ p : Page, ∃ members, p.json = .object members
        ∧ members.map Prod.fst = (p.keys.filter Prod.snd).map Prod.fst)
    ∧ ∀ n : Note, n.HasCommonTimes → ∃ members, n.json = .object members
        ∧ ∀ key t, (key, t) ∈ [("created_at", n.createdAt), ("updated_at", n.updatedAt)] →
          ∃ s, (key, .text s) ∈ members ∧ (Timestamp.fractionDigits s).length ∈ [0, 3, 6, 9]
            ∧ numeralValue (Timestamp.fractionDigits s)
                * 10 ^ (9 - (Timestamp.fractionDigits s).length) = t.nanos
            ∧ ∀ k ∈ [0, 3, 6, 9], 10 ^ (9 - k) ∣ t.nanos →
              (Timestamp.fractionDigits s).length ≤ k :=
  ⟨fun _ hn => (Note.recovers hn).run, fun _ hp => (Page.recovers hp).run, Page.keys_json,
    fun _ hn => Note.times_json hn⟩

/-- `json_roundTrip` for a note from the last half second of 1969 whose strings need escapes, and
for a page with some of the optional members. -/
theorem json_roundTrip_early :
    let n : Note := {
      id := ⟨0xFF⟩
      owner := ⟨"\"\\"⟩
      title := "one\ntwo\x01"
      body := ""
      color := "Ünïcödé 𝄞"
      createdAt := { seconds := -1, nanos := 500000000 }
      updatedAt := { seconds := 951782400, nanos := 1 } }
    let p : Page := {
      notes := [n, n]
      prev := some n.id.toHex
      hasMore := true
      totals := ⟨2, 18446744073709551615⟩
      offset := some 0 }
    (n.HasCommonTimes ∧ Note.reader.run n.json.bytes = .ok n)
      ∧ (p.Fits ∧ Page.reader.run p.json.bytes = .ok p)
      ∧ p.keys.filter (fun key => !key.2)
        = [("next_cursor", false), ("window_size", false), ("anchor_index", false)]
      ∧ Timestamp.write n.createdAt = "1969-12-31T23:59:59.500Z"
      ∧ Timestamp.write n.updatedAt = "2000-02-29T00:00:00.000000001Z" := by
  intro n p
  have hn : n.HasCommonTimes :=
    ⟨⟨by decide, by decide, by decide⟩, ⟨by decide, by decide, by decide⟩⟩
  have hp : p.Fits := by
    refine ⟨fun m hm => ?_, by decide, by decide, by decide, by decide, by decide⟩
    rcases List.mem_pair.1 hm with rfl | rfl <;> exact hn
  obtain ⟨hnote, hpage, -, -⟩ := json_roundTrip
  exact ⟨⟨hn, hnote n hn⟩, ⟨hp, hpage p hp⟩, rfl, by decide +kernel, by decide +kernel⟩

end NotePager

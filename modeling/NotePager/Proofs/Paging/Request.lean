import NotePager.Paging.Request
import NotePager.Proofs.Json.Settled

/-!
# Valid parameters

Parameters make a request when each of its parts is valid (`Parameters.validate_eq_ok_iff`), and
every request for a first page can be made (`Parameters.validate_ofRequest`). Parameters that
make a request for a first page go on to do so with another order, and with a cursor they make the
request for the page next to it.
-/

namespace NotePager

/-! ## Names -/

/-- `SortOrder.name` is in lower case. -/
theorem SortOrder.lowercase_name (order : SortOrder) : lowercase order.name = order.name := by
  cases order <;> decide

/-- `PageDirection.name` is in lower case. -/
theorem PageDirection.lowercase_name (direction : PageDirection) :
    lowercase direction.name = direction.name := by
  cases direction <;> decide

namespace Parameters

variable {p : Parameters} {r : ListRequest}

/-! ## The parts of a request -/

/-- `validate` succeeds exactly when `checkTogether` does and each part of the request is what its
validation gives. -/
theorem validate_eq_ok_iff : p.validate = .ok r ↔
    p.validLimit = .ok r.limit ∧ p.validSort = .ok r.sort ∧ p.validOrder = .ok r.order
      ∧ p.checkTogether = .ok () ∧ p.validStart r.sort = .ok r.start
      ∧ p.validSearch = .ok r.search ∧ p.color = r.color := by
  simp only [validate, bind_eq_ok_iff]
  constructor
  · rintro ⟨limit, hlimit, sort, hsort, order, horder, u, htogether, start, hstart, search, hsearch,
      hr⟩
    cases hr
    exact ⟨hlimit, hsort, horder, htogether, hstart, hsearch, rfl⟩
  · rintro ⟨hlimit, hsort, horder, htogether, hstart, hsearch, hcolor⟩
    exact ⟨_, hlimit, _, hsort, _, horder, _, htogether, _, hstart, _, hsearch, by rw [hcolor]; rfl⟩

/-- A number that is checked against bounds when given, with a default within them, is within
them. -/
theorem bounds_of_given {given : Option Int} {low high absent k : Nat} {fault : Int → ListError}
    (habsent : low ≤ absent ∧ absent ≤ high)
    (h : (match given with
      | none => Except.ok absent
      | some n => if (low : Int) ≤ n ∧ n ≤ high then .ok n.toNat else .error (fault n)) = .ok k) :
    low ≤ k ∧ k ≤ high := by
  cases given with
  | none =>
    cases h
    exact habsent
  | some n =>
    simp only at h
    by_cases hn : (low : Int) ≤ n ∧ n ≤ high
    · rw [if_pos hn, Except.ok.injEq] at h
      omega
    · rw [if_neg hn] at h
      cases h

/-- `validate` gives requests with `limit` between `minLimit` and `maxLimit`. -/
theorem limit_bounds (h : p.validate = .ok r) : minLimit ≤ r.limit ∧ r.limit ≤ maxLimit :=
  bounds_of_given (by decide) (validate_eq_ok_iff.1 h).1

/-- `validOrder` reads `SortOrder.name`. -/
theorem validOrder_name {order : SortOrder} (h : p.order = some order.name) :
    p.validOrder = .ok order := by
  simp only [validOrder, h, Option.map_some, SortOrder.lowercase_name]
  cases order <;> rfl

/-- `validDirection` reads `PageDirection.name`. -/
theorem validDirection_name {direction : PageDirection} (h : p.direction = some direction.name) :
    p.validDirection = .ok direction := by
  simp only [validDirection, h, Option.map_some, PageDirection.lowercase_name]
  cases direction <;> rfl

/-! ## First pages -/

/-- The parameters that ask for a first page, with everything else as in the request. -/
def ofRequest (r : ListRequest) : Parameters where
  limit := some r.limit
  search := r.search
  color := r.color
  sort := some r.sort.name
  order := some r.order.name

/-- `validate` takes `ofRequest r` to `r`, for a first page with a `limit` within the bounds and a
search text that is trimmed, not empty and not too long. -/
theorem validate_ofRequest (hstart : r.start = .cursor none .next)
    (hlimit : minLimit ≤ r.limit ∧ r.limit ≤ maxLimit)
    (hsearch : ∀ text, r.search = some text →
      text ≠ "" ∧ Text.trim text = text ∧ text.length ≤ maxSearchLength) :
    (ofRequest r).validate = .ok r := by
  refine validate_eq_ok_iff.2 ⟨?_, ?_, validOrder_name rfl, rfl, ?_, ?_, rfl⟩
  · have hn : (minLimit : Int) ≤ r.limit ∧ (r.limit : Int) ≤ maxLimit := by omega
    simp only [validLimit, ofRequest, hn, and_self, if_true, Int.toNat_natCast]
  · simp only [validSort, ofRequest, SortBy.ofName?_name]
  · rw [hstart]
    rfl
  · cases hr : r.search with
    | none => simp only [validSearch, ofRequest, hr, Option.map_none]
    | some text =>
      obtain ⟨hempty, htrim, hlength⟩ := hsearch text hr
      simp only [validSearch, ofRequest, hr, Option.map_some, htrim, String.isEmpty_iff, hempty,
        if_false, Nat.not_lt.2 hlength]

/-- Parameters that validate to a first page have no cursor, offset, anchor, span or direction. -/
theorem start_absent (h : p.validate = .ok r) (hstart : r.start = .cursor none .next) :
    p.cursor = none ∧ p.offset = none ∧ p.anchor = none ∧ p.span = none ∧ p.direction = none := by
  obtain ⟨-, -, -, htogether, hvalid, -, -⟩ := validate_eq_ok_iff.1 h
  rw [hstart, validStart] at hvalid
  cases hoffset : p.offset with
  | some n =>
    simp only [hoffset] at hvalid
    split at hvalid <;> cases hvalid
  | none =>
    cases hanchor : p.anchor with
    | some raw =>
      simp only [hoffset, hanchor, bind_eq_ok_iff] at hvalid
      obtain ⟨span, -, anchor, -, hvalid⟩ := hvalid
      cases hvalid
    | none =>
      simp only [hoffset, hanchor, bind_eq_ok_iff] at hvalid
      obtain ⟨direction, -, hvalid⟩ := hvalid
      cases hcursor : p.cursor with
      | some raw =>
        simp only [hcursor, bind_eq_ok_iff] at hvalid
        obtain ⟨cursor, -, hvalid⟩ := hvalid
        cases hvalid
      | none =>
        cases hspan : p.span <;> cases hdirection : p.direction <;>
          simp_all [checkTogether]

/-- Setting `order` in the parameters of a first page sets it in the request. -/
theorem validate_order (h : p.validate = .ok r) (order : SortOrder) :
    { p with order := some order.name }.validate = .ok { r with order } := by
  obtain ⟨hlimit, hsort, -, htogether, hvalid, hsearch, hcolor⟩ := validate_eq_ok_iff.1 h
  exact validate_eq_ok_iff.2
    ⟨hlimit, hsort, validOrder_name rfl, htogether, hvalid, hsearch, hcolor⟩

/-! ## Pages next to a cursor -/

/-- The parameters with a cursor, after which the page is to lie. -/
def fromCursor (p : Parameters) (raw : String) : Parameters := { p with cursor := some raw }

/-- The parameters with a cursor, before which the page is to lie. -/
def beforeCursor (p : Parameters) (raw : String) : Parameters :=
  { p with cursor := some raw, direction := some PageDirection.prev.name }

/-- `validCursor` succeeds when `Cursor.decode` does, with the same cursor. -/
theorem validCursor_eq_ok_iff {raw : String} {sort : SortBy} {c : Cursor} :
    validCursor raw sort = .ok c ↔ Cursor.decode raw sort = .ok c := by
  rw [validCursor]
  cases Cursor.decode raw sort with
  | error cause =>
    constructor
    · rintro ⟨⟩
    · rintro ⟨⟩
  | ok c' =>
    constructor
    · rintro ⟨⟩
      rfl
    · rintro ⟨⟩
      rfl

/-- `validStart` with a cursor that decodes, and neither offset nor anchor, is that cursor and the
direction. -/
theorem validStart_cursor {sort : SortBy} {raw : String} {c : Cursor} {direction : PageDirection}
    (hoffset : p.offset = none) (hanchor : p.anchor = none)
    (hdirection : p.validDirection = .ok direction) (hcursor : p.cursor = some raw)
    (hraw : Cursor.decode raw sort = .ok c) :
    p.validStart sort = .ok (.cursor (some c) direction) := by
  simp only [validStart, hoffset, hanchor, hdirection, hcursor, validCursor_eq_ok_iff.2 hraw, bind,
    Except.bind, pure, Except.pure]

/-- `validate` takes `fromCursor` of the parameters of a first page to the same request from the
cursor on. -/
theorem validate_fromCursor (h : p.validate = .ok r) (hstart : r.start = .cursor none .next)
    {raw : String} {c : Cursor} (hraw : Cursor.decode raw r.sort = .ok c) :
    (p.fromCursor raw).validate = .ok { r with start := .cursor (some c) .next } := by
  obtain ⟨hlimit, hsort, horder, -, -, hsearch, hcolor⟩ := validate_eq_ok_iff.1 h
  obtain ⟨-, hoffset, hanchor, hspan, hdirection⟩ := start_absent h hstart
  refine validate_eq_ok_iff.2 ⟨hlimit, hsort, horder, ?_, ?_, hsearch, hcolor⟩
  · simp [checkTogether, fromCursor, hoffset, hanchor, hspan]
  · have hnext : (p.fromCursor raw).validDirection = .ok .next := by
      simp only [validDirection, fromCursor, hdirection, Option.map_none]
    exact validStart_cursor hoffset hanchor hnext rfl hraw

/-- `validate` takes `beforeCursor` of the parameters of a first page to the same request with
direction `.prev`. -/
theorem validate_beforeCursor (h : p.validate = .ok r) (hstart : r.start = .cursor none .next)
    {raw : String} {c : Cursor} (hraw : Cursor.decode raw r.sort = .ok c) :
    (p.beforeCursor raw).validate = .ok { r with start := .cursor (some c) .prev } := by
  obtain ⟨hlimit, hsort, horder, -, -, hsearch, hcolor⟩ := validate_eq_ok_iff.1 h
  obtain ⟨-, hoffset, hanchor, hspan, hdirection⟩ := start_absent h hstart
  refine validate_eq_ok_iff.2 ⟨hlimit, hsort, horder, ?_, ?_, hsearch, hcolor⟩
  · simp [checkTogether, beforeCursor, hoffset, hanchor, hspan]
  · exact validStart_cursor hoffset hanchor (validDirection_name rfl) rfl hraw

/-! ## Windows -/

/-- The parameters that ask for a window around an anchor. -/
def aroundAnchor (sort : SortBy) (order : SortOrder) (raw : String) (span : Nat) : Parameters where
  anchor := some raw
  span := some span
  sort := some sort.name
  order := some order.name

/-- `validate` takes `aroundAnchor` to the request for that window, if the anchor decodes and the
span is between 1 and `maxSpan`. -/
theorem validate_aroundAnchor {sort : SortBy} {order : SortOrder} {raw : String} {anchor : Cursor}
    {span : Nat} (hspan : 1 ≤ span ∧ span ≤ maxSpan) (hraw : Cursor.decode raw sort = .ok anchor) :
    (aroundAnchor sort order raw span).validate
      = .ok { start := .anchor anchor span, sort, order } := by
  refine validate_eq_ok_iff.2 ⟨rfl, ?_, validOrder_name rfl, rfl, ?_, rfl, rfl⟩
  · simp only [validSort, aroundAnchor, SortBy.ofName?_name]
  · have hn : 1 ≤ (span : Int) ∧ (span : Int) ≤ maxSpan := by omega
    simp only [validStart, aroundAnchor, validSpan, hn, and_self, if_true, Int.toNat_natCast,
      validCursor_eq_ok_iff.2 hraw, bind, Except.bind, pure, Except.pure]

end Parameters

end NotePager

import NotePager.Proofs.Paging.Walk

/-!
# Listings that are given up

Every listing begins with a call of the store, and no call is made once the caller has given up. So
a listing that is begun too late fails with its first call (`Listing.fetch_givesUp`), whatever it
would have come to otherwise. One that is begun in time never fails because of the store
(`Listing.refused_of_outcome`), since its filters have a meaning whatever is searched for.
-/

namespace NotePager

/-- The operation that a listing of the page calls first. -/
def PageStart.firstCall : PageStart → StoreOperation
  | cursor .. | offset _ => .count
  | anchor .. => .findOne

namespace Listing

open Access

/-! ## Giving up -/

/-- The work does nothing once the caller has given up, and fails with the operation that it would
have called first. -/
def GivesUp (mode : PageMode) (operation : StoreOperation) (work : Access ListError α) : Prop :=
  ∀ c : Connection, c.cancelled = true →
    work c = (.error (.failed (.store mode (.cancelled operation))), c)

namespace GivesUp

variable {mode : PageMode} {operation : StoreOperation}

/-- A `guarded` call `GivesUp` with its operation. -/
theorem guarded (mode : PageMode) (operation : StoreOperation) (call : Access StoreError α) :
    GivesUp mode operation (guarded mode operation call) := by
  intro c hc
  simp only [Listing.guarded, hc, if_true]

/-- Work in two parts `GivesUp` when the first part does. -/
theorem bind {work : Access ListError α} (h : GivesUp mode operation work)
    (f : α → Access ListError β) : GivesUp mode operation (work >>= f) :=
  fun c hc => bind_apply_error (h c hc)

/-- Two pieces of work that are begun together `GivesUp` when the first does; the second is not
begun. -/
theorem both {first : Access ListError α} (h : GivesUp mode operation first)
    (second : Access ListError β) : GivesUp mode operation (first.both second) := by
  intro c hc
  simp only [Access.both, h c hc]

end GivesUp

/-- `totals` `GivesUp` with a count. -/
theorem totals_givesUp (mode : PageMode) (sel : Selection) :
    GivesUp mode .count (totals mode sel) := by
  have hselected := GivesUp.guarded mode .count (.count sel.filter)
  by_cases hn : sel.isNarrowed
  · simp only [totals, hn, if_true]
    exact (hselected.both _).bind _
  · simp only [totals, hn]
    exact hselected.bind _

/-- `Listing.fetch` `GivesUp` with the `firstCall` of the page that is asked for. -/
theorem fetch_givesUp (owner : Owner) (r : ListRequest) :
    GivesUp r.start.mode r.start.firstCall (fetch owner r) := by
  cases hr : r.start with
  | cursor cursor direction =>
    have htotals := totals_givesUp .cursor (r.selection owner)
    cases cursor with
    | none =>
      simp only [fetch, hr]
      exact (htotals.both _).bind _
    | some cursor =>
      simp only [fetch, hr]
      exact (htotals.both _).bind _
  | offset offset =>
    simp only [fetch, hr]
    exact (totals_givesUp .offset (r.selection owner)).bind _
  | anchor anchor span =>
    simp only [fetch, hr]
    exact (GivesUp.guarded .anchor .findOne _).bind _

/-! ## Coming to an end -/

/-- What can be wrong with a listing that the caller waits for: the note is not there that a cursor
or an anchor names, or the offset lies too far behind. -/
inductive Refused : PageStart → ListError → Prop
  | cursor (id : NoteId) (direction : PageDirection) :
    Refused (.cursor (some (.note id)) direction) (.notFound (.cursorNote id))
  | anchor (anchor : Cursor) (span : Nat) :
    Refused (.anchor anchor span) (.notFound (.anchorNote anchor.id))
  | offset (offset total : Nat) : Refused (.offset offset) (.offsetBeyondTotal offset total)

/-- `Refused` holds of no `ListError.store`. -/
theorem Refused.ne_store {start : PageStart} {e : ListError} (h : Refused start e) (mode : PageMode)
    (cause : StoreError) : e ≠ .store mode cause := by
  rintro rfl
  cases h

variable {s : Store} {owner : Owner} {r : ListRequest} {c : Connection} {e : ListError}

/-- `Store.place` is an error only for a cursor without a title, and then it is `notFound`. -/
theorem place_eq_error {sort : SortBy} {cursor : Cursor}
    (h : s.place owner sort cursor = .error e) :
    ∃ id, cursor = .note id ∧ e = .notFound (.cursorNote id) := by
  cases cursor with
  | titled title id => cases h
  | note id =>
    refine ⟨id, rfl, ?_⟩
    simp only [Store.place, Position.ofCursor?] at h
    split at h
    · cases h
      rfl
    · cases h

/-- An error of `Listing.outcome` is `Refused` for the page that is asked for. -/
theorem refused_of_outcome (h : outcome s owner r = .error e) : Refused r.start e := by
  cases hr : r.start with
  | cursor cursor direction =>
    cases cursor with
    | none =>
      simp only [outcome, hr] at h
      cases h
    | some cursor =>
      -- Both directions fail only where the place of the cursor does.
      have hplace : s.place owner r.sort cursor = .error e := by
        cases hp : s.place owner r.sort cursor with
        | error e' => cases direction <;> simp_all [outcome, Except.map]
        | ok p => cases direction <;> simp [outcome, hr, hp, Except.map] at h
      obtain ⟨id, rfl, rfl⟩ := place_eq_error hplace
      exact .cursor id direction
  | offset offset =>
    simp only [outcome, hr] at h
    split at h
    · cases h
      exact .offset offset _
    · cases h
  | anchor anchor span =>
    simp only [outcome, hr] at h
    split at h
    · cases h
      exact .anchor anchor span
    · cases h

/-- Begun without faults by a caller who has not given up, `Listing.fetch` comes to
`Listing.outcome`. -/
theorem fetch_of_waiting (owner : Owner) (r : ListRequest) (hfaults : c.faults = [])
    (hc : c.cancelled = false) :
    (fetch owner r c).1 = (outcome c.store owner r).mapError .failed := by
  obtain ⟨c', -, -, hfetch⟩ := ends_fetch c.store owner r c ⟨hc, hfaults⟩ rfl
  rw [hfetch]

/-- Begun so, `Listing.fetch` comes to a page or to an error that is `Refused`. -/
theorem fetch_in_time (owner : Owner) (r : ListRequest) (hfaults : c.faults = [])
    (hc : c.cancelled = false) :
    (∃ page, (fetch owner r c).1 = .ok page)
      ∨ ∃ e, (fetch owner r c).1 = .error (.failed e) ∧ Refused r.start e := by
  have hfetch := fetch_of_waiting owner r hfaults hc
  cases ho : outcome c.store owner r with
  | ok page => exact .inl ⟨page, by rw [hfetch, ho]; rfl⟩
  | error e => exact .inr ⟨e, by rw [hfetch, ho]; rfl, refused_of_outcome ho⟩

/-- On a connection without faults, `Listing.fetch` comes to `ListError.store` exactly when the
caller has given up before it begins. Then it leaves the connection as it is, and the error has the
mode of the request and is `cancelled`, whatever the listing would have come to. Otherwise it comes
to a page, or to an error that is `Refused`: the note of a cursor without a title or of an anchor is
not there, or the offset is behind the total. The filter of the selection and `Filter.search` of
every text compile. -/
theorem fetch_store_error_iff (owner : Owner) (r : ListRequest) (hfaults : c.faults = []) :
    ((∃ mode cause, (fetch owner r c).1 = .error (.failed (.store mode cause)))
      ↔ c.cancelled = true)
    ∧ (c.cancelled = true → ∃ operation, fetch owner r c
        = (.error (.failed (.store r.start.mode (.cancelled operation))), c))
    ∧ (c.cancelled = false → (∃ page, (fetch owner r c).1 = .ok page)
        ∨ ∃ e, (fetch owner r c).1 = .error (.failed e) ∧ Refused r.start e)
    ∧ (∃ p : Predicate, (r.selection owner).filter.compile = .ok p)
    ∧ ∀ text, ∃ p : Predicate, (Filter.search text).compile = .ok p := by
  have hlate (hc : c.cancelled = true) := fetch_givesUp owner r c hc
  refine ⟨⟨?_, fun hc => ?_⟩, fun hc => ⟨_, hlate hc⟩, fetch_in_time owner r hfaults,
    ⟨_, (r.selection owner).compile_filter⟩, fun text => ⟨_, Filter.compile_search text⟩⟩
  · rintro ⟨mode, cause, hstore⟩
    by_contra hc
    rcases fetch_in_time owner r hfaults (Bool.not_eq_true _ ▸ hc) with
      ⟨page, hpage⟩ | ⟨e, he, hrefused⟩
    · cases hstore.symm.trans hpage
    · cases hstore.symm.trans he
      exact hrefused.ne_store mode cause rfl
  · exact ⟨_, _, congrArg Prod.fst (hlate hc)⟩

/-- A request for the page behind the seventh of the notes with some words, which no note of
`teaStore` has. -/
def farRequest : ListRequest := { start := .offset 7, search := some "(.*" }

/-- `Listing.outcome` of `farRequest` is `offsetBeyondTotal`. -/
theorem outcome_farRequest :
    outcome teaStore ⟨"ann"⟩ farRequest = .error (.offsetBeyondTotal 7 0) := by
  decide +kernel

/-- `fetch_store_error_iff` for `farRequest`: `offsetBeyondTotal` on a connection to `teaStore`, and
`cancelled` when the caller has given up. -/
theorem fetch_store_error_iff_teaStore :
    let late : Connection := { store := teaStore, cancelled := true }
    (fetch ⟨"ann"⟩ farRequest { store := teaStore }).1
        = .error (.failed (.offsetBeyondTotal 7 0))
      ∧ (¬ ∃ mode cause, (fetch ⟨"ann"⟩ farRequest { store := teaStore }).1
        = .error (.failed (.store mode cause)))
      ∧ ∃ operation, fetch ⟨"ann"⟩ farRequest late
        = (.error (.failed (.store .offset (.cancelled operation))), late) := by
  intro late
  obtain ⟨hintime, -⟩ :=
    fetch_store_error_iff (c := { store := teaStore }) ⟨"ann"⟩ farRequest rfl
  obtain ⟨-, hlate, -⟩ := fetch_store_error_iff (c := late) ⟨"ann"⟩ farRequest rfl
  refine ⟨?_, fun h => ?_, hlate rfl⟩
  · rw [fetch_of_waiting ⟨"ann"⟩ farRequest rfl rfl, outcome_farRequest]
    rfl
  · cases hintime.1 h

end Listing

end NotePager

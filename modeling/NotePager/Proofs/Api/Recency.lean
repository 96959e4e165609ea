import NotePager.Proofs.Api.Serving
import NotePager.Proofs.Paging.Ranking

/-!
# Requests that follow each other

From an empty store, requests are answered one after the other. What has become of the notes can be
read off the responses (`deed?_of_effect`), so the requests and the responses alone determine a
`Ledger` of all notes (`run_sound`). If the clock goes forward from one write to the next, the
ledger is what the listings by time show. Requests that fail and requests that read leave no trace
in it.
-/

namespace NotePager.Server

open Http Listing

/-- What a request has done, read off its response. -/
def deed? (settings : Settings) (occasion : Occasion) (r : Request) (response : Response) :
    Option Deed :=
  if 400 ≤ response.status then none
  else match Notes.callerOf settings r with
    | .error _ => none
    | .ok owner =>
      if r.method = "POST" then some (.added (occasion.noteId, owner))
      else if r.method = "PATCH" then (namedNote? r.path).map fun id => .patched (id, owner)
      else if r.method = "DELETE" then (namedNote? r.path).map fun id => .removed (id, owner)
      else none

/-- `deed?` reads from the response with an `Effect` what the request has done: a deed that is
`Done`, or nothing. -/
theorem deed?_of_effect {settings : Settings} {occasion : Occasion} {r : Request} {s s' : Store}
    {response : Response} (h : Effect settings occasion r s response s') :
    deed? settings occasion r response = none ∧ s' = s
      ∨ ∃ d, deed? settings occasion r response = some d ∧ d.Done occasion.now s s' := by
  cases h with
  | nothing hread =>
    refine .inl ⟨?_, rfl⟩
    rw [deed?]
    split
    · rfl
    · next hstatus =>
      split
      · rfl
      · rcases hread.resolve_left hstatus with hmethod | hmethod <;> simp [hmethod]
  | added hmethod hstatus hcaller hnote hbody hnew hnotes =>
    subst hnote
    refine .inr ⟨_, ?_, .added rfl rfl hnew hnotes⟩
    simp [deed?, hstatus, hcaller, hmethod, Note.entry, Draft.note]
  | patched hmethod hstatus hcaller hid hnote hbody hcut hnotes =>
    subst hnote
    refine .inr ⟨_, ?_, .patched ?_ ?_ ?_ hcut hnotes⟩
    · simp [deed?, hstatus, hcaller, hmethod, hid, Note.entry]
    all_goals rfl
  | removed hmethod hstatus hcaller hid hcut hnotes =>
    refine .inr ⟨_, ?_, .removed hcut hnotes⟩
    simp [deed?, hstatus, hcaller, hmethod, hid, Note.entry]

/-! ## Runs -/

/-- A request that reaches the server, with what the surroundings supply for it and what befalls its
calls of the store. -/
structure Arrival where
  request : Request
  occasion : Occasion
  cancelled : Bool := false
  faults : List Fault := []

/-- The response to a request that finds the notes of the store `s`, and the store it leaves. -/
def Arrival.served (settings : Settings) (header : String) (s : Store) (a : Arrival) :
    Response × Store :=
  let (response, c) := serve settings header a.occasion a.request
    { store := s, cancelled := a.cancelled, faults := a.faults }
  (response, c.store)

/-- What has been done, read off the response. -/
def Arrival.deed? (settings : Settings) (header : String) (s : Store) (a : Arrival) : Option Deed :=
  Server.deed? settings a.occasion (received header a.occasion a.request)
    (a.served settings header s).1

/-- What is read off the responses to some requests: each deed with its time, the first one
first. -/
abbrev Journal := List (Instant × Deed)

/-- The times that are set by the deeds of a journal. -/
def Journal.times (j : Journal) : List Instant := j.flatMap fun e => e.2.times e.1

/-- The ledger that is kept by a journal. -/
def Journal.ledger (j : Journal) (l : Ledger) : Ledger := j.foldl (fun l e => l.record e.2) l

/-- The requests are answered one after the other, beginning with the store `s`: what is read off
the responses, and the store in the end. -/
def run (settings : Settings) (header : String) (s : Store) : List Arrival → Journal × Store
  | [] => ([], s)
  | a :: arrivals =>
    let (journal, s') := run settings header (a.served settings header s).2 arrivals
    ((a.deed? settings header s).toList.map (a.occasion.now, ·) ++ journal, s')

variable {settings : Settings} {header : String}

/-- `Arrival.deed?` is what the arrival has `Done` to a store with distinct identifiers, or
nothing. -/
theorem Arrival.deed?_done (settings : Settings) (header : String) {s : Store}
    (hs : s.DistinctIds) (a : Arrival) :
    a.deed? settings header s = none ∧ (a.served settings header s).2 = s
      ∨ ∃ d, a.deed? settings header s = some d
        ∧ d.Done a.occasion.now s (a.served settings header s).2 :=
  deed?_of_effect (serve_effect (c := { store := s, cancelled := a.cancelled, faults := a.faults })
    hs settings header a.occasion a.request)

/-- A ledger that is `Sound` stays `Sound` when the journal of a `run` is recorded in it and the
clock goes forward. -/
theorem run_sound {l : Ledger} {past : List Instant} {s : Store} (h : l.Sound past s)
    {arrivals : List Arrival}
    (hclock : (past ++ (run settings header s arrivals).1.times).Pairwise
      fun t u => compare t u = .lt) :
    ((run settings header s arrivals).1.ledger l).Sound
      (past ++ (run settings header s arrivals).1.times) (run settings header s arrivals).2 := by
  induction arrivals generalizing l past s with
  | nil => simpa [run, Journal.times, Journal.ledger] using h
  | cons a arrivals ih =>
    simp only [run] at hclock ⊢
    rcases a.deed?_done settings header h.distinct with
      ⟨hnone, hstore⟩ | ⟨d, hsome, hdone⟩
    · simp only [hnone, hstore, Option.toList_none, List.map_nil, List.nil_append] at hclock ⊢
      exact ih h hclock
    · simp only [hsome, Option.toList_some, List.map_singleton, List.singleton_append,
        Journal.times, Journal.ledger, List.flatMap_cons, List.foldl_cons] at hclock ⊢
      rw [← List.append_assoc] at hclock ⊢
      refine ih (h.step hdone fun hwrite t ht => ?_) hclock
      have hnow : a.occasion.now ∈ d.times a.occasion.now := by simp [Deed.times, hwrite]
      obtain ⟨hpast, -, -⟩ := List.pairwise_append.1 hclock
      exact (List.pairwise_append.1 hpast).2.2 t ht _ hnow

/-- `run` from an empty store, for arrivals of any owners, valid or not, with a clock that goes
forward from one write to the next. There is exactly one `ForwardWalk` through an owner's notes, and
it shows all of them: by `updatedAt` in the order of their last creation or patch that did not fail,
by `createdAt` in the order of their creations. Both orders are read from the ledger that
`Journal.ledger` keeps by the responses, in which requests that fail or only read leave no trace;
`fromLatest` turns them round for an ascending walk. -/
theorem run_listed (settings : Settings) (header : String) (arrivals : List Arrival)
    (hclock : (run settings header {} arrivals).1.times.Pairwise fun t u => compare t u = .lt)
    (owner : Owner) {p : Parameters} {r : ListRequest} (hp : p.validate = .ok r)
    (hstart : r.start = .cursor none .next) (hsearch : r.search = none) (hcolor : r.color = none) :
    ∃ pages : List Page,
      (∀ pages', ForwardWalk (run settings header {} arrivals).2 owner p pages' ↔ pages' = pages)
      ∧ (pages.flatMap Page.notes).Perm
        ((run settings header {} arrivals).2.notes.filter (·.owner == owner))
      ∧ (r.sort = .updatedAt → (pages.flatMap Page.notes).map Note.id = r.order.fromLatest
          (ownedIds owner ((run settings header {} arrivals).1.ledger {}).written))
      ∧ (r.sort = .createdAt → (pages.flatMap Page.notes).map Note.id = r.order.fromLatest
          (ownedIds owner ((run settings header {} arrivals).1.ledger {}).created)) := by
  have hsound := run_sound .empty hclock
  generalize run settings header {} arrivals = journey at hsound ⊢
  obtain ⟨journal, s⟩ := journey
  obtain ⟨hs, hwritten, hcreated⟩ := hsound
  have hselection : r.selection owner = { owner } := by
    rw [ListRequest.selection, hsearch, hcolor]
  have hwalk := forwardWalk_pages hs owner hp hstart
  have hpages := flatMap_pages s owner (Parameters.limit_bounds hp).1
  rw [hselection] at hpages
  refine ⟨_, fun pages' => ⟨fun h => h.unique hwalk, fun h => h ▸ hwalk⟩, ?_, fun hsort => ?_,
    fun hsort => ?_⟩
  · rw [hpages, ← Selection.accepts_owner]
    exact s.select_perm _ _
  · rw [hpages, hsort, hwritten.listed_eq hs fun _ => rfl]
  · rw [hpages, hsort, hcreated.listed_eq hs fun _ => rfl]

/-- A request by the owner `ann`, some seconds after the beginning of time. -/
def arrivalAt (seconds : Nat) (method path body : String) : Arrival where
  request := {
    method, path
    headers := [("x-user-id", "ann"), ("content-type", "application/json")]
    body := Text.utf8 body }
  occasion := ⟨.ofSeconds seconds, ⟨BitVec.ofNat 96 seconds⟩, ⟨0⟩⟩

/-- Two notes are written. The first one is patched then, the second one is not, because the patch
sets nothing. -/
def teaParty : List Arrival := [
  arrivalAt 1 "POST" "/api/v1/notes" "\x7b\x7d",
  arrivalAt 2 "POST" "/api/v1/notes" "\x7b\"title\": \"Tea\"\x7d",
  arrivalAt 3 "PATCH" "/api/v1/notes/000000000000000000000001" "\x7b\"title\": \"Cake\"\x7d",
  arrivalAt 4 "PATCH" "/api/v1/notes/000000000000000000000002" "\x7b\x7d"]

/-- `run_listed` for `teaParty`: the walk by `updatedAt` shows the patched note first, the walk by
`createdAt` shows it last. -/
theorem run_listed_teaParty :
    (∃ pages, ForwardWalk (run {} "x-request-id" {} teaParty).2 ⟨"ann"⟩
        { sort := some "updated_at", order := some "desc" } pages
      ∧ (pages.flatMap Page.notes).map Note.id = [⟨1⟩, ⟨2⟩])
    ∧ ∃ pages, ForwardWalk (run {} "x-request-id" {} teaParty).2 ⟨"ann"⟩
        { sort := some "created_at", order := some "desc" } pages
      ∧ (pages.flatMap Page.notes).map Note.id = [⟨2⟩, ⟨1⟩] := by
  have hclock : (run {} "x-request-id" {} teaParty).1.times.Pairwise
      fun t u => compare t u = .lt := by decide +kernel
  have hwritten : ownedIds ⟨"ann"⟩ ((run {} "x-request-id" {} teaParty).1.ledger {}).written
      = [⟨1⟩, ⟨2⟩] := by decide +kernel
  have hcreated : ownedIds ⟨"ann"⟩ ((run {} "x-request-id" {} teaParty).1.ledger {}).created
      = [⟨2⟩, ⟨1⟩] := by decide +kernel
  have hupdate : ({ sort := some "updated_at", order := some "desc" } : Parameters).validate
      = .ok { sort := .updatedAt } := by decide
  have hcreate : ({ sort := some "created_at", order := some "desc" } : Parameters).validate
      = .ok { sort := .createdAt } := by decide
  obtain ⟨pages, hpages, -, hids, -⟩ :=
    run_listed {} "x-request-id" teaParty hclock ⟨"ann"⟩ hupdate rfl rfl rfl
  obtain ⟨pages', hpages', -, -, hids'⟩ :=
    run_listed {} "x-request-id" teaParty hclock ⟨"ann"⟩ hcreate rfl rfl rfl
  exact ⟨⟨pages, (hpages pages).2 rfl, (hids rfl).trans hwritten⟩,
    pages', (hpages' pages').2 rfl, (hids' rfl).trans hcreated⟩

end NotePager.Server

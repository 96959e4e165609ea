import NotePager.Proofs.Api.Endpoint
import NotePager.Proofs.Api.Serving
import NotePager.Proofs.Paging.AnchorWindow
import NotePager.Proofs.Paging.Ranking

/-!
# Which notes there are

A listing finds notes by a filter, an order and a place to go on from; reading finds one by a filter
for its identifier; patching and removing go through the store; an anchor is looked up among the
selected notes. All of them find the same notes, those of the store that are the owner's
(`Store.Holds`). So the notes that a walk through a listing shows are those that can be read,
patched, removed and used as anchors (`Server.agrees_of_mem_iff`).
-/

namespace NotePager

open Access Encoding Http Listing Text

/-- The store holds a note with this identifier, and it is the owner's. -/
def Store.Holds (s : Store) (owner : Owner) (id : NoteId) : Prop :=
  ∃ n ∈ s.notes, n.id = id ∧ n.owner = owner

variable {settings : Settings} {occasion : Occasion} {limit : Nat} {r : Request} {s s' : Store}
  {owner : Owner} {id : NoteId} {op : ApiOperation}

/-! ## Endpoints on a quiet connection -/

namespace Notes

/-- `page` on a quiet connection ends with the `Listing.outcome` of the request, its error put into
words by `ApiError.ofList`. -/
theorem ends_page (s : Store) (owner : Owner) (request : ListRequest) :
    Ends (page owner request) s
      ((outcome s owner request).mapError fun e => .error (ApiError.ofList e)) s := by
  intro c hc hs
  obtain ⟨c', hc', hs', hfetch⟩ := ends_fetch s owner request c hc hs
  refine ⟨c', hc', hs', ?_⟩
  simp only [page, settle, hfetch]
  cases outcome s owner request <;> rfl

/-- `Notes.list` on a quiet connection ends with the `Listing.outcome` of the request that
`Parameters.validate` makes of the query string. -/
theorem ends_list {q : Parameters} (hcaller : callerOf settings r = .ok owner)
    (hquery : Parameters.ofPairs (queryPairs (utf8 r.query)) = .ok q) :
    Ends (list settings r) s
      (match q.validate.bind (outcome s owner) with
        | .ok page => .ok (.json 200 page.json)
        | .error e => .error (.error (ApiError.ofList e))) s := by
  simp only [list_eq, hcaller, orRefuse_ok_bind, hquery]
  cases hvalid : q.validate with
  | error e => exact .fail _
  | ok request =>
    have hpage := ends_page s owner request
    simp only [orRefuse_ok_bind, Except.bind]
    cases houtcome : outcome s owner request with
    | error e =>
      rw [houtcome] at hpage
      exact .bind_error hpage
    | ok page =>
      rw [houtcome] at hpage
      exact .bind hpage (.pure _)

section
variable {segment : String} (hcaller : callerOf settings r = .ok owner)
  (hpath : Resource.ofPath? r.path = some (.note segment)) (hid : namedNote? r.path = some id)
include hcaller hpath hid

/-- `Notes.get` on a quiet connection ends with the first note that has the identifier and the
owner, and with `absent` if there is none. -/
theorem ends_get : Ends (get settings segment r) s
    (match s.notes.find? fun n => n.owner == owner && n.id == id with
      | some n => .ok (.json 200 n.json)
      | none => .error (.error (absent id .get))) s := by
  simp only [get, hcaller, orRefuse_ok_bind, noteNamed_bind hpath hid]
  refine .bind (.mapError _ (.findOne (Filter.compile_ownedNote owner id))) ?_
  cases s.notes.find? fun n => n.owner == owner && n.id == id with
  | none => exact .fail _
  | some n => exact .pure _

/-- `Notes.update` with a patch that is in order ends with the note that `Store.update` patches, and
with `absent` if it patches none. -/
theorem ends_update {patch : Patch} (hbody : readBody Patch.reader limit r = .ok patch)
    (hcheck : patch.check = .ok ()) (hset : patch.isEmpty = false) :
    Ends (update settings occasion limit segment r) s
      (match (s.update owner id patch occasion.now).1 with
        | some n => .ok (.json 200 n.json)
        | none => .error (.error (absent id .update)))
      (s.update owner id patch occasion.now).2 := by
  simp only [update, hcaller, orRefuse_ok_bind, noteNamed_bind hpath hid, hbody, hcheck, hset,
    Bool.false_eq_true, if_false]
  refine .bind (.mapError _ (.update owner id patch occasion.now)) ?_
  cases (s.update owner id patch occasion.now).1 with
  | none => exact .fail _
  | some n => exact .pure _

/-- `Notes.delete` ends with 204 if `Store.delete` removes a note, and with `absent` otherwise. -/
theorem ends_delete : Ends (delete settings segment r) s
    (if (s.delete owner id).1 then .ok (.empty 204) else .error (.error (absent id .delete)))
    (s.delete owner id).2 := by
  simp only [delete, hcaller, orRefuse_ok_bind, noteNamed_bind hpath hid]
  refine .bind (.mapError _ (.delete owner id)) ?_
  cases (s.delete owner id).1 with
  | false => exact .fail _
  | true => exact .pure _

end

end Notes

namespace Server

/-- The status that a request is answered with. -/
def Outcome.status? : Outcome → Option Nat
  | answered response => some response.status
  | waiting _ | crashed => none

/-- The response for what work has come to. -/
def told : Except Refusal Response → Response
  | .ok response => response
  | .error refusal => refusal.response

/-- `Server.answer` on a fresh connection gives the response (`told`) for what `Notes.work` ends
with. -/
theorem answer_of_ends {resource : Resource} (hpath : Resource.ofPath? r.path = some resource)
    (hop : resource.operation? r.method = some op) {x : Except Refusal Response}
    (h : Ends (Notes.work settings occasion limit resource.segment r op) s x s') :
    (answer settings occasion limit r { store := s }).1 = .answered (told x) := by
  obtain ⟨c', -, -, hwork⟩ := h { store := s } ⟨rfl, rfl⟩ rfl
  simp only [answer, hpath, endpoint_eq hop, hwork]
  cases x <;> rfl

/-! ## Endpoints for one note -/

/-- The request asks for an operation on the note with this identifier and names the owner as its
caller. -/
structure Addresses (settings : Settings) (op : ApiOperation) (owner : Owner) (id : NoteId)
    (r : Request) : Prop where
  called : called? r = some op
  caller : Notes.callerOf settings r = .ok owner
  named : namedNote? r.path = some id

/-- A request for `get` that `Addresses` a note of the owner's is answered with this note and status
200. -/
theorem Addresses.answer_get (hs : s.DistinctIds) (h : Addresses settings .get owner id r)
    {n : Note} (hn : n ∈ s.notes) (hid : n.id = id) (howner : n.owner = owner) :
    (answer settings occasion limit r { store := s }).1 = .answered (.json 200 n.json) := by
  subst hid
  obtain ⟨segment, hpath, hop⟩ := exists_segment_of_named h.called h.named
  have hfind := hs.find?_eq_some (q := (·.owner == owner)) hn (beq_iff_eq.2 howner)
  rw [answer_of_ends hpath hop (Notes.ends_get h.caller hpath h.named), hfind]
  rfl

/-- A request for `get` that `Addresses` a note has status 200 exactly when the store `Holds` the
note for the owner. -/
theorem Addresses.get_iff (hs : s.DistinctIds) (h : Addresses settings .get owner id r) :
    (answer settings occasion limit r { store := s }).1.status? = some 200 ↔ s.Holds owner id := by
  constructor
  · intro hstatus
    obtain ⟨segment, hpath, hop⟩ := exists_segment_of_named h.called h.named
    rw [answer_of_ends hpath hop (Notes.ends_get h.caller hpath h.named)] at hstatus
    cases hfind : s.notes.find? fun n => n.owner == owner && n.id == id with
    | none =>
      rw [hfind] at hstatus
      cases hstatus
    | some n =>
      have hn := List.find?_some hfind
      rw [Bool.and_eq_true, beq_iff_eq, beq_iff_eq] at hn
      exact ⟨n, List.mem_of_find?_eq_some hfind, hn.2, hn.1⟩
  · rintro ⟨n, hn, hid, howner⟩
    rw [h.answer_get hs hn hid howner]
    rfl

/-- A request for `update` that `Addresses` a note, with a patch that is in order, has status 200
exactly when the store `Holds` the note for the owner. -/
theorem Addresses.update_iff (hs : s.DistinctIds) (h : Addresses settings .update owner id r)
    {patch : Patch} (hbody : readBody Patch.reader limit r = .ok patch)
    (hcheck : patch.check = .ok ()) (hset : patch.isEmpty = false) :
    (answer settings occasion limit r { store := s }).1.status? = some 200 ↔ s.Holds owner id := by
  obtain ⟨segment, hpath, hop⟩ := exists_segment_of_named h.called h.named
  rw [answer_of_ends hpath hop (Notes.ends_update h.caller hpath h.named hbody hcheck hset)]
  rcases s.absent_or_cut owner id with habsent | ⟨front, n, back, hcut, hid, howner⟩
  · rw [Store.update_of_absent habsent]
    refine iff_of_false (by rintro ⟨⟩) ?_
    rintro ⟨n, hn, hid, howner⟩
    exact habsent n hn hid howner
  · rw [Store.update_of_cut hs hcut hid howner]
    exact iff_of_true rfl ⟨n, by simp [hcut], hid, howner⟩

/-- A request for `delete` that `Addresses` a note has status 204 exactly when the store `Holds` the
note for the owner. -/
theorem Addresses.delete_iff (hs : s.DistinctIds) (h : Addresses settings .delete owner id r) :
    (answer settings occasion limit r { store := s }).1.status? = some 204 ↔ s.Holds owner id := by
  obtain ⟨segment, hpath, hop⟩ := exists_segment_of_named h.called h.named
  rw [answer_of_ends hpath hop (Notes.ends_delete h.caller hpath h.named)]
  rcases s.absent_or_cut owner id with habsent | ⟨front, n, back, hcut, hid, howner⟩
  · rw [Store.delete_of_absent habsent]
    refine iff_of_false (by rintro ⟨⟩) ?_
    rintro ⟨n, hn, hid, howner⟩
    exact habsent n hn hid howner
  · rw [Store.delete_of_cut hs hcut hid howner]
    exact iff_of_true rfl ⟨n, by simp [hcut], hid, howner⟩

/-! ## Listings -/

/-- `Server.answer` to a request for `list` is the page that `Listing.ask` gives for its parameters,
or its error. -/
theorem answer_list {q : Parameters} (hop : called? r = some .list)
    (hcaller : Notes.callerOf settings r = .ok owner)
    (hquery : Parameters.ofPairs (queryPairs (utf8 r.query)) = .ok q) :
    (∀ page, ask s owner q = .ok page →
      (answer settings occasion limit r { store := s }).1 = .answered (.json 200 page.json))
    ∧ ((answer settings occasion limit r { store := s }).1.status? = some 200
      ↔ ∃ page, ask s owner q = .ok page) := by
  obtain ⟨resource, hpath, hop⟩ := Option.bind_eq_some_iff.1 hop
  simp only [answer_of_ends hpath hop (Notes.ends_list hcaller hquery), ask_eq_ok_iff]
  cases q.validate.bind (outcome s owner) with
  | ok page =>
    refine ⟨?_, iff_of_true rfl ⟨page, rfl⟩⟩
    rintro _ ⟨⟩
    rfl
  | error e =>
    refine ⟨by rintro _ ⟨⟩, iff_of_false (fun hstatus => ?_) (by rintro ⟨_, ⟨⟩⟩)⟩
    have hrefused : 400 ≤ 200 := Option.some.inj hstatus ▸ (Refusal.error (.ofList e)).le_status
    omega

/-- The total `owned` of any page of `Listing.ask` counts all notes of the owner, whatever is asked
for. -/
theorem owned_of_ask {q : Parameters} {page : Page} (h : ask s owner q = .ok page) :
    page.totals.owned = s.notes.countP (·.owner == owner) := by
  rw [ask_eq_ok_iff] at h
  cases hq : q.validate with
  | error e => rw [hq] at h; cases h
  | ok request =>
    rw [hq] at h
    rw [totals_of_outcome h]
    rfl

section
variable {request : ListRequest} (hsearch : request.search = none) (hcolor : request.color = none)
include hsearch hcolor

/-- With neither a search nor a color, `Store.listed` has all notes of the owner. -/
theorem mem_listed_owned {sort : SortBy} {order : SortOrder} {n : Note} :
    n ∈ s.listed (request.selection owner) sort order ↔ n ∈ s.notes ∧ n.owner = owner := by
  have hselection : request.selection owner = { owner } := by
    rw [ListRequest.selection, hsearch, hcolor]
  rw [Store.mem_listed, hselection, Selection.accepts_owner, beq_iff_eq]

/-- With neither a search nor a color, `Listing.ask` gives a window around an anchor exactly when
the store `Holds` the anchor for the owner. -/
theorem ask_anchor_iff (hs : s.DistinctIds) {q : Parameters} {anchor : Cursor} {span : Nat}
    (hq : q.validate = .ok request) (hstart : request.start = .anchor anchor span) :
    (∃ page, ask s owner q = .ok page) ↔ s.Holds owner anchor.id := by
  rw [ask, hq]
  dsimp only
  constructor
  · rintro ⟨page, hpage⟩
    by_contra habsent
    rw [answer_unlisted_anchor hstart] at hpage
    · cases hpage
    · intro n hn hid
      obtain ⟨hmem, howner⟩ := (mem_listed_owned hsearch hcolor).1 hn
      exact habsent ⟨n, hmem, hid, howner⟩
  · rintro ⟨n, hn, hid, howner⟩
    obtain ⟨i, hi⟩ := List.mem_iff_getElem?.1 ((mem_listed_owned hsearch hcolor).2 ⟨hn, howner⟩)
    exact ⟨_, answer_windowAt hs hstart hi hid⟩

end

/-! ## What a walk shows -/

/-- All endpoints agree with a walk about an identifier: the note is shown, or there is none. -/
structure Agrees (s : Store) (owner : Owner) (shown : List Note) (id : NoteId) : Prop where
  /-- A note can be read exactly when it is shown. -/
  get : ∀ {settings occasion limit r}, Addresses settings .get owner id r →
    ((answer settings occasion limit r { store := s }).1.status? = some 200
      ↔ ∃ n ∈ shown, n.id = id)
  /-- What is read is the note that is shown. -/
  read : ∀ {settings occasion limit r}, Addresses settings .get owner id r →
    ∀ n ∈ shown, n.id = id →
      (answer settings occasion limit r { store := s }).1 = .answered (.json 200 n.json)
  /-- It can be patched, with a patch that sets something and keeps the limits. -/
  update : ∀ {settings occasion limit r patch}, Addresses settings .update owner id r →
    readBody Patch.reader limit r = .ok patch → patch.check = .ok () → patch.isEmpty = false →
    ((answer settings occasion limit r { store := s }).1.status? = some 200
      ↔ ∃ n ∈ shown, n.id = id)
  /-- It can be removed. -/
  delete : ∀ {settings occasion limit r}, Addresses settings .delete owner id r →
    ((answer settings occasion limit r { store := s }).1.status? = some 204
      ↔ ∃ n ∈ shown, n.id = id)
  /-- It can be the anchor of a listing that asks for no more than the owner's notes. -/
  anchor : ∀ {q : Parameters} {request : ListRequest} {anchor : Cursor} {span : Nat},
    q.validate = .ok request → request.start = .anchor anchor span → anchor.id = id →
    request.search = none → request.color = none →
    ((∃ page, ask s owner q = .ok page) ↔ ∃ n ∈ shown, n.id = id)
  /-- Any cursor with the identifier, as the sort has them, will do for that. -/
  anchored : ∀ {sort : SortBy} {order : SortOrder} {raw : String} {anchor : Cursor} {span : Nat},
    1 ≤ span ∧ span ≤ maxSpan → Cursor.decode raw sort = .ok anchor → anchor.id = id →
    ((∃ page, ask s owner (.aroundAnchor sort order raw span) = .ok page)
      ↔ ∃ n ∈ shown, n.id = id)

/-- Notes that are shown exactly when they are the owner's make all endpoints `Agree` about every
identifier. -/
theorem agrees_of_mem_iff (hs : s.DistinctIds) {shown : List Note}
    (hshown : ∀ n, n ∈ shown ↔ n ∈ s.notes ∧ n.owner = owner) (id : NoteId) :
    Agrees s owner shown id := by
  have hholds : s.Holds owner id ↔ ∃ n ∈ shown, n.id = id := by
    constructor
    · rintro ⟨n, hn, hid, howner⟩
      exact ⟨n, (hshown n).2 ⟨hn, howner⟩, hid⟩
    · rintro ⟨n, hn, hid⟩
      obtain ⟨hmem, howner⟩ := (hshown n).1 hn
      exact ⟨n, hmem, hid, howner⟩
  refine ⟨fun h => (h.get_iff hs).trans hholds, fun h n hn hid => ?_,
    fun h hbody hcheck hset => (h.update_iff hs hbody hcheck hset).trans hholds,
    fun h => (h.delete_iff hs).trans hholds, fun hq hstart hid hsearch hcolor => ?_,
    fun hspan hraw hid => ?_⟩
  · obtain ⟨hmem, howner⟩ := (hshown n).1 hn
    exact h.answer_get hs hmem hid howner
  · subst hid
    exact (ask_anchor_iff hsearch hcolor hs hq hstart).trans hholds
  · subst hid
    exact (ask_anchor_iff rfl rfl hs (Parameters.validate_aroundAnchor hspan hraw) rfl).trans hholds

/-- All ways to a note agree. With neither a search nor a color, in whatever order and by pages of
whatever size, there is exactly one `ForwardWalk` through the notes of an owner, and the notes it
shows `Agree` with every identifier: a note is shown exactly when `get` answers with it, exactly
when it can be patched, exactly when it can be removed, and exactly when it can be an anchor. The
total `owned` of every page of `Listing.ask` is the number of notes shown, and `Server.answer` to a
request for `list` gives the pages of `Listing.ask`. -/
theorem listing_agrees (hs : s.DistinctIds) (owner : Owner) {p : Parameters} {request : ListRequest}
    (hp : p.validate = .ok request) (hstart : request.start = .cursor none .next)
    (hsearch : request.search = none) (hcolor : request.color = none) :
    ∃ pages : List Page, (∀ pages', ForwardWalk s owner p pages' ↔ pages' = pages)
      ∧ (∀ id, Agrees s owner (pages.flatMap Page.notes) id)
      ∧ (∀ q page, ask s owner q = .ok page →
        page.totals.owned = (pages.flatMap Page.notes).length)
      ∧ ∀ settings occasion limit r q, called? r = some .list →
        Notes.callerOf settings r = .ok owner →
        Parameters.ofPairs (queryPairs (utf8 r.query)) = .ok q →
        (∀ page, ask s owner q = .ok page →
          (answer settings occasion limit r { store := s }).1 = .answered (.json 200 page.json))
        ∧ ((answer settings occasion limit r { store := s }).1.status? = some 200
          ↔ ∃ page, ask s owner q = .ok page) := by
  have hwalk := forwardWalk_pages hs owner hp hstart
  have hpages := flatMap_pages s owner (Parameters.limit_bounds hp).1
  refine ⟨_, fun pages' => ⟨fun h => h.unique hwalk, fun h => h ▸ hwalk⟩, fun id => ?_,
    fun q page hpage => ?_, fun settings occasion limit r q => answer_list⟩
  · rw [hpages]
    exact agrees_of_mem_iff hs (fun n => mem_listed_owned hsearch hcolor) id
  · have hselection : request.selection owner = { owner } := by
      rw [ListRequest.selection, hsearch, hcolor]
    rw [hpages, Store.length_listed, hselection, Selection.accepts_owner, owned_of_ask hpage]

/-- `listing_agrees` for the third note of `teaStore`, of the owner `ann`: the walk for `ann` shows
it and it can be an anchor, and the walk for `ben` does not show it. -/
theorem listing_agrees_teaStore :
    (∃ pages, ForwardWalk teaStore ⟨"ann"⟩ {} pages
      ∧ (∃ n ∈ pages.flatMap Page.notes, n.id = ⟨3⟩)
      ∧ ∃ page, ask teaStore ⟨"ann"⟩ (.aroundAnchor .createdAt .ascending
        "000000000000000000000003" 1) = .ok page)
    ∧ ∃ pages, ForwardWalk teaStore ⟨"ben"⟩ {} pages
      ∧ ¬ ∃ n ∈ pages.flatMap Page.notes, n.id = ⟨3⟩ := by
  have hs : teaStore.DistinctIds := by decide
  have hp : ({} : Parameters).validate = .ok {} := by decide
  constructor
  · obtain ⟨pages, hpages, hagrees, -⟩ := listing_agrees hs ⟨"ann"⟩ hp rfl rfl rfl
    have haddress : Addresses {} .delete ⟨"ann"⟩ ⟨3⟩ (dropRequest "ann") :=
      ⟨by decide, by decide, by decide⟩
    have hremoved : (answer {} firstOccasion 0 (dropRequest "ann")
        { store := teaStore }).1.status? = some 204 := by decide +kernel
    have hraw : Cursor.decode "000000000000000000000003" .createdAt = .ok (.note ⟨3⟩) := by
      decide +kernel
    have hshown := ((hagrees ⟨3⟩).delete haddress).1 hremoved
    exact ⟨pages, (hpages pages).2 rfl, hshown,
      ((hagrees ⟨3⟩).anchored (by decide) hraw rfl).2 hshown⟩
  · obtain ⟨pages, hpages, hagrees, -⟩ := listing_agrees hs ⟨"ben"⟩ hp rfl rfl rfl
    have haddress : Addresses {} .delete ⟨"ben"⟩ ⟨3⟩ (dropRequest "ben") :=
      ⟨by decide, by decide, by decide⟩
    have hrefused : (answer {} firstOccasion 0 (dropRequest "ben")
        { store := teaStore }).1.status? ≠ some 204 := by decide +kernel
    exact ⟨pages, (hpages pages).2 rfl, mt ((hagrees ⟨3⟩).delete haddress).2 hrefused⟩

end Server

end NotePager

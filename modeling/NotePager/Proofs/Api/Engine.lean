import NotePager.Proofs.Api.Endpoint
import NotePager.Proofs.Api.Serving
import NotePager.Proofs.Paging.Selection
import NotePager.Proofs.Paging.Validation

/-!
# The choice of an engine

The server makes no difference between engines that read texts. A search text that has passed
validation has at most `maxSearchLength` characters, and every other filter of the service compares
values only, so an engine that `ReadsTexts` of this length `Understands` every filter that is asked
for: it means to the engine what it means to the plain one. Then every call of the store is the same
call, every page is fetched the same (`Listing.fetch_eq_plain`), and the server gives the same
response and leaves the same connection (`Server.serve_eq_plain`). So what is said of the server
with the plain engine holds with any such engine.
-/

namespace NotePager

variable {E : PatternEngine}

/-- The filter means to the engine what it means to the plain engine. -/
def PatternEngine.Understands (E : PatternEngine) (f : Filter) : Prop :=
  @Filter.compile E f = @Filter.compile .plain f

namespace PatternEngine.Understands

/-- `Filter.and` of filters that are understood is understood. -/
theorem and {f g : Filter} (hf : E.Understands f) (hg : E.Understands g) :
    E.Understands (f.and g) := by
  rw [Understands, @Filter.compile_and_eq E, @Filter.compile_and_eq .plain, hf, hg]

/-- `Filter.equal` compares, and is understood by any engine. -/
theorem equal (field : NoteField) (v : FieldValue) : E.Understands (.equal field v) :=
  (@Filter.compile_equal E field v).trans (@Filter.compile_equal .plain field v).symm

/-- `Filter.after` compares, and is understood by any engine. -/
theorem after (sort : SortBy) (order : SortOrder) (p : Position) :
    E.Understands (.after sort order p) :=
  (@Filter.compile_after E sort order p).trans (@Filter.compile_after .plain sort order p).symm

/-- `Filter.ownedNote` compares, and is understood by any engine. -/
theorem ownedNote (owner : Owner) (id : NoteId) : E.Understands (.ownedNote owner id) :=
  .and (.equal _ _) (.equal _ _)

/-- The filter of a selection is understood if its search text is short enough to be read. -/
theorem selection {limit : Nat} (h : E.ReadsTexts limit) {s : Selection}
    (hs : ∀ text ∈ s.search, text.length ≤ limit) : E.Understands s.filter :=
  (@Selection.compile_filter_of_readsTexts E limit h s hs).trans s.compile_filter.symm

end PatternEngine.Understands

/-! ## Calls of the store -/

namespace Access

/-- `Access.find` is the same call if the filter of the query is understood. -/
theorem find_eq_plain {q : Query} (hq : E.Understands q.filter) :
    @find E q = @find .plain q := by
  have hstore (s : Store) : @Store.find E s q = @Store.find .plain s q :=
    congrArg (Except.map fun p => Store.window q.skip q.limit (s.select q.sort p)) hq
  exact congrArg (fun read => perform (.find q) (answerRead .find read)) (funext hstore)

/-- `Access.count` is the same call if the filter is understood. -/
theorem count_eq_plain {f : Filter} (hf : E.Understands f) :
    @count E f = @count .plain f := by
  have hstore (s : Store) : @Store.count E s f = @Store.count .plain s f :=
    congrArg (Except.map s.notes.countP) hf
  exact congrArg (fun read => perform (.count f) (answerRead .count read)) (funext hstore)

/-- `Access.findOne` is the same call if the filter is understood. -/
theorem findOne_eq_plain {f : Filter} (hf : E.Understands f) :
    @findOne E f = @findOne .plain f := by
  have hfind := find_eq_plain (E := E) (q := { filter := f, limit := some 1 }) hf
  unfold findOne
  rw [hfind]

end Access

/-! ## Listings -/

namespace Listing

section
variable {s : Selection} (hs : E.Understands s.filter)
include hs

/-- `totals` counts filters that are understood. -/
theorem totals_eq_plain (mode : PageMode) :
    @totals E mode s = @totals .plain mode s := by
  have howned : E.Understands (.ownedBy s.owner) := .equal _ _
  unfold totals
  rw [Access.count_eq_plain hs, Access.count_eq_plain howned]

omit hs in
/-- `resolve` asks for a note of the owner's. -/
theorem resolve_eq_plain (sort : SortBy) (cursor : Cursor) :
    @resolve E s sort cursor = @resolve .plain s sort cursor := by
  unfold resolve
  rw [Access.findOne_eq_plain (.ownedNote s.owner cursor.id)]

/-- `cursorPage` asks for selected notes after a position. -/
theorem cursorPage_eq_plain (sort : SortBy) (order : SortOrder) (limit : Nat)
    (cursor : Cursor) (direction : PageDirection) :
    @cursorPage E s sort order limit cursor direction
      = @cursorPage .plain s sort order limit cursor direction := by
  have hrows (order : SortOrder) (p : Position) :
      @Access.find E (queryFirst (s.filter.and (.after sort order p)) sort order (limit + 1))
        = @Access.find .plain _ :=
    Access.find_eq_plain (.and hs (.after sort order p))
  unfold cursorPage
  simp only [totals_eq_plain hs, resolve_eq_plain, hrows]

/-- `offsetPage` asks for selected notes. -/
theorem offsetPage_eq_plain (sort : SortBy) (order : SortOrder) (limit offset : Nat) :
    @offsetPage E s sort order limit offset = @offsetPage .plain s sort order limit offset := by
  let q : Query :=
    { filter := s.filter, sort := sort.keys order, skip := offset, limit := some limit }
  have hrows : @Access.find E q = @Access.find .plain q := Access.find_eq_plain hs
  unfold offsetPage
  rw [totals_eq_plain hs, hrows]

/-- `anchorWindow` asks for the selected notes with an identifier, after a position, and before. -/
theorem anchorWindow_eq_plain (sort : SortBy) (order : SortOrder) (anchor : Cursor)
    (span : Nat) : @anchorWindow E s sort order anchor span
      = @anchorWindow .plain s sort order anchor span := by
  have hanchor : E.Understands (s.filter.and (.equal .id (.id anchor.id))) :=
    .and hs (.equal .id _)
  have hside (order : SortOrder) (p : Position) :
      E.Understands (s.filter.and (.after sort order p)) :=
    .and hs (.after sort order p)
  have hcount (order : SortOrder) (p : Position) := Access.count_eq_plain (hside order p)
  have hrows (order : SortOrder) (p : Position) :
      @Access.find E (queryFirst (s.filter.and (.after sort order p)) sort order (span + 1))
        = @Access.find .plain _ :=
    Access.find_eq_plain (hside order p)
  unfold anchorWindow
  simp only [totals_eq_plain hs, Access.findOne_eq_plain hanchor, hcount, hrows]

end

/-- A request whose search text is short enough to be read fetches the same page, and makes the same
calls for it, with any engine that `ReadsTexts`. -/
theorem fetch_eq_plain {limit : Nat} (h : E.ReadsTexts limit) (owner : Owner)
    {r : ListRequest} (hr : ∀ text ∈ r.search, text.length ≤ limit) :
    @fetch E owner r = @fetch .plain owner r := by
  have hs : E.Understands (r.selection owner).filter := .selection h hr
  unfold fetch
  cases r.start with
  | cursor cursor direction =>
    cases cursor with
    | none =>
      have hrows : @Access.find E
          (queryFirst (r.selection owner).filter r.sort r.order (r.limit + 1))
          = @Access.find .plain _ := Access.find_eq_plain hs
      dsimp only
      unfold firstPage
      rw [totals_eq_plain hs, hrows]
    | some cursor => exact cursorPage_eq_plain hs r.sort r.order r.limit cursor direction
  | offset offset => exact offsetPage_eq_plain hs r.sort r.order r.limit offset
  | anchor anchor span => exact anchorWindow_eq_plain hs r.sort r.order anchor span

end Listing

/-! ## The server -/

namespace Notes

variable (settings : Settings) (r : Http.Request)

/-- `Notes.list` fetches a page only once the parameters are validated, which bounds the search
text. -/
theorem list_eq_plain (h : E.ReadsTexts maxSearchLength) :
    @list E settings r = @list .plain settings r := by
  refine orRefuse_bind_congr fun owner _ => orRefuse_bind_congr fun parameters _ =>
    orRefuse_bind_congr fun request hvalid => ?_
  obtain ⟨-, -, -, -, -, hsearch, -⟩ := Parameters.validate_eq_ok_iff.1 hvalid
  have hfetch := Listing.fetch_eq_plain h owner (r := request) fun text htext =>
    (Parameters.search_withinBounds hsearch text htext).2.2
  rw [hfetch]

/-- `Notes.get` asks for a note of the owner's. -/
theorem get_eq_plain (segment : String) :
    @get E settings segment r = @get .plain settings segment r := by
  have hfind (owner : Owner) (id : NoteId) :=
    Access.findOne_eq_plain (E := E) (.ownedNote owner id)
  unfold get
  simp only [hfind]

end Notes

/-- `Health.ready` counts what no note passes. -/
theorem Health.ready_eq_plain {ε : Type} (settings : Settings) :
    @ready ε E settings = @ready ε .plain settings := by
  have hnone : E.Understands (.any []) := rfl
  unfold ready
  rw [Access.count_eq_plain hnone]

namespace Server

variable (h : E.ReadsTexts maxSearchLength) (settings : Settings) (occasion : Occasion)
include h

/-- Every endpoint does the same work. -/
theorem endpoint_eq_plain (limit : Nat) (resource : Resource) (r : Http.Request) :
    @endpoint E settings occasion limit resource r
      = @endpoint .plain settings occasion limit resource r := by
  unfold endpoint
  simp only [Notes.list_eq_plain settings r h, Notes.get_eq_plain (E := E),
    Health.ready_eq_plain (E := E)]

/-- The service alone gives the same answer. -/
theorem answer_eq_plain (limit : Nat) (r : Http.Request) (c : Connection) :
    @answer E settings occasion limit r c = @answer .plain settings occasion limit r c := by
  unfold answer
  simp only [endpoint_eq_plain h]

/-- The server gives the same response to every request and leaves the same connection with any
engine that `ReadsTexts` up to the length of search texts, whatever the faults that calls meet. -/
theorem serve_eq_plain (header : String) (r : Http.Request) (c : Connection) :
    @serve E settings header occasion r c = @serve .plain settings header occasion r c := by
  unfold serve limited limited.run
  simp only [answer_eq_plain h]

end Server

end NotePager

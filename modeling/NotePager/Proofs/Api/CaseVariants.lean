import NotePager.Proofs.Api.Endpoint
import NotePager.Proofs.Api.Serving
import NotePager.Proofs.Paging.CaseVariants

/-!
# Requests and the case of a search

Two requests for a listing whose query strings give the same but for the case of the search are
answered with the same response. They are refused alike up to the parameters
(`Parameters.recased_ofPairs`, `Parameters.Recased.validate`), and from there on the listing comes
to the same, also when it is given up in the end (`Notes.alike_page`). Nothing else in the server
looks at a query string.
-/

namespace NotePager

open Access Encoding Http Text

/-! ## Listings -/

namespace Notes

variable {α β γ ε : Type} {s : Store} {r : Request} {query : String}

/-- Work behind an `orRefuse` is `Alike` for checks that `AgreeUpTo` a relation, if what follows is
`Alike` for related values. -/
theorem alike_orRefuse {R : α → β → Prop} {f : ε → ApiError} {x : Except ε α} {y : Except ε β}
    {k : α → Work γ} {l : β → Work γ} (h : AgreeUpTo R x y)
    (hnext : ∀ a b, R a b → Alike s s (k a) (l b)) :
    Alike s s (orRefuse f x >>= k) (orRefuse f y >>= l) := by
  cases h with
  | error e => exact .halt (.failed (Refusal.error (f e)))
  | ok h => exact hnext _ _ h

/-- `page` is `Alike` for requests that are `Recased`: the same page is fetched, or both are given
up with the same error. -/
theorem alike_page {request request' : ListRequest} (h : request.Recased request')
    (owner : Owner) : Alike s s (page owner request) (page owner request') := by
  have hoverdue : overdue request' = overdue request := by rw [overdue, h.rest, overdue]
  intro c d hcd
  obtain ⟨outcome, c₁, d₁, hc₁, hd₁, hcd₁⟩ := (h.alike_fetch s owner).settle hcd
  rcases outcome with (e | w | _) | a <;>
    exact ⟨_, c₁, d₁, by rw [page, hc₁], by rw [page, hd₁, hoverdue], hcd₁⟩

/-- `Notes.list` is `Alike` for two query strings whose pairs are `SamePair` one by one. -/
theorem alike_list (settings : Settings) (hpairs : List.Forall₂ Parameters.SamePair
    (queryPairs (utf8 r.query)) (queryPairs (utf8 query))) :
    Alike s s (list settings r) (list settings { r with query }) := by
  rw [list_eq, list_eq]
  refine alike_orRefuse (.same (callerOf settings r)) ?_
  rintro owner _ rfl
  refine alike_orRefuse (Parameters.recased_ofPairs hpairs) fun p p' hp => ?_
  refine alike_orRefuse hp.validate fun request request' hrequest => ?_
  exact .bind (alike_page hrequest owner) fun page => .pure _

end Notes

/-! ## The server -/

namespace Server

variable (settings : Settings) (occasion : Occasion) {r : Request} {query : String}
  (hop : called? r = some .list) (hpairs : List.Forall₂ Parameters.SamePair
    (queryPairs (utf8 r.query)) (queryPairs (utf8 query)))
include hop hpairs

/-- `Server.answer` has the same outcome for both query strings. -/
theorem answer_recased (limit : Nat) (c : Connection) :
    (answer settings occasion limit r c).1
      = (answer settings occasion limit { r with query } c).1 := by
  obtain ⟨resource, hpath, hop⟩ := Option.bind_eq_some_iff.1 hop
  have hsame : (Notes.list settings r c).1 = (Notes.list settings { r with query } c).1 :=
    (Notes.alike_list (s := c.store) settings hpairs).fst_eq c
  simp only [answer, hpath, endpoint_eq hop, endpoint_eq (r := { r with query }) hop, Notes.work]
  revert hsame
  rcases Notes.list settings r c with ⟨(refusal | w | _) | response, c₁⟩ <;>
    rcases Notes.list settings { r with query } c with ⟨(refusal' | w' | _) | response', c₂⟩ <;>
    rintro ⟨⟩ <;> rfl

/-- `Server.limited` has the same response for both query strings. -/
theorem limited_recased (c : Connection) :
    (limited settings occasion r c).1 = (limited settings occasion { r with query } c).1 := by
  have hrun (limit : Nat) : (limited.run settings occasion r c limit).1
      = (limited.run settings occasion { r with query } c limit).1 := by
    rw [limited_run_eq, limited_run_eq, answer_recased settings occasion hop hpairs]
    rfl
  -- The length is announced in a header.
  have hlength : announcedLength { r with query } = announcedLength r := by
    rw [announcedLength, announcedLength]
  rw [limited, limited, hlength]
  cases announcedLength r with
  | none => exact hrun _
  | some n =>
    dsimp only
    split
    · rfl
    · exact hrun _

/-- `Server.serve` has the same response for both query strings. -/
theorem serve_recased (header : String) (c : Connection) :
    (serve settings header occasion r c).1
      = (serve settings header occasion { r with query } c).1 := by
  have hreceived : received header occasion { r with query }
      = { received header occasion r with query } := by
    rw [received, received]
    cases r.headers.get? header <;> rfl
  have hname : nameOf header occasion { r with query } = nameOf header occasion r := rfl
  have hquery : (received header occasion r).query = r.query := by
    rw [received]
    split <;> rfl
  rw [serve_eq, serve_eq, hreceived, hname]
  have hcalled := (called?_received header occasion r).trans hop
  have hlimited := limited_recased settings occasion hcalled (hquery ▸ hpairs) c
  generalize received header occasion r = r at hlimited ⊢
  revert hlimited
  rcases limited settings occasion r c with ⟨_ | response, c₁⟩ <;>
    rcases limited settings occasion { r with query } c with ⟨_ | response', c₂⟩ <;>
    rintro ⟨⟩ <;> rfl

end Server

/-- A search ignores case, in the searched text and in the notes. For texts that are `SameText`,
`Filter.search` compiles for both, whether they are short or searched for by their words, and the
predicates agree on notes whose title and body are `SameText`. So `Listing.ask` gives the same page
or the same error for parameters that are `Recased`. `Server.serve` gives the same response for two
requests for `list` whose query strings have pairs that are `SamePair` one by one, also when calls
of the store meet faults or the caller gives up. -/
theorem search_ignoresCase :
    (∀ text text' : String, SameText text text' → ∃ accepts accepts' : Predicate,
      (Filter.search text).compile = .ok accepts ∧ (Filter.search text').compile = .ok accepts'
      ∧ ∀ n n' : Note, SameText n.title n'.title → SameText n.body n'.body →
        (accepts n = true ↔ accepts' n' = true))
    ∧ (∀ p p' : Parameters, p.Recased p' → ∀ (s : Store) (owner : Owner),
      Listing.ask s owner p = Listing.ask s owner p')
    ∧ ∀ (r : Request) (query : String), called? r = some .list →
      List.Forall₂ Parameters.SamePair (queryPairs (utf8 r.query)) (queryPairs (utf8 query)) →
      ∀ (settings : Settings) (header : String) (occasion : Occasion) (c : Connection),
        (Server.serve settings header occasion r c).1
          = (Server.serve settings header occasion { r with query } c).1 := by
  refine ⟨fun text text' htext => ?_, fun p p' h => h.ask, fun r query hop hpairs settings => ?_⟩
  · refine ⟨_, _, Filter.compile_search text, Filter.compile_search text', ?_⟩
    intro n n' htitle hbody
    rw [Note.hasText_of_sameText htext htitle hbody]
  · exact fun header occasion c => Server.serve_recased settings occasion hop hpairs header c

/-- A request for `list` by the owner `ann`, with this query string. -/
def listRequest (query : String) : Request where
  method := "GET"
  path := "/api/v1/notes"
  query
  headers := [("x-user-id", "ann")]

/-- `search_ignoresCase` for "kids" and the same with a kelvin sign and a long s, which `SameText`
takes for a K and an s although neither has as many bytes. -/
theorem search_ignoresCase_kelvin :
    (∃ accepts accepts' : Predicate, (Filter.search "kids").compile = .ok accepts
      ∧ (Filter.search "\u212aID\u017f").compile = .ok accepts'
      ∧ accepts (titled "tea for \u212aids") = true ∧ accepts' (titled "Tea For KIDS") = true)
    ∧ Listing.ask teaStore ⟨"ann"⟩ { search := some "ks" }
      = Listing.ask teaStore ⟨"ann"⟩ { search := some "\u212a\u017f" }
    ∧ (Server.serve {} "x-request-id" firstOccasion (listRequest "q=ks") { store := teaStore }).1
      = (Server.serve {} "x-request-id" firstOccasion (listRequest "q=%E2%84%AA%C5%BF")
          { store := teaStore }).1 := by
  obtain ⟨hfilter, hask, hserve⟩ := search_ignoresCase
  have hletters : SameText "ks" "\u212a\u017f" := by decide +kernel
  refine ⟨?_, hask _ _ ⟨.some hletters, rfl⟩ _ _, ?_⟩
  · obtain ⟨accepts, accepts', hcompile, hcompile', hiff⟩ :=
      hfilter "kids" "\u212aID\u017f" (by decide +kernel)
    have hfound : accepts (titled "tea for \u212aids") = true := by
      cases hcompile.symm.trans (Filter.compile_search _)
      decide +kernel
    have htitle : SameText "tea for \u212aids" "Tea For KIDS" := by decide +kernel
    have hsame := hiff (titled "tea for \u212aids") (titled "Tea For KIDS") htitle (.refl "")
    exact ⟨accepts, accepts', hcompile, hcompile', hfound, hsame.1 hfound⟩
  · refine hserve (listRequest "q=ks") "q=%E2%84%AA%C5%BF" (by decide) ?_ _ _ _ _
    have hpairs : queryPairs (utf8 "q=ks") = [("q", "ks")] := by decide +kernel
    have hpairs' : queryPairs (utf8 "q=%E2%84%AA%C5%BF") = [("q", "\u212a\u017f")] := by
      decide +kernel
    change List.Forall₂ _ (queryPairs (utf8 "q=ks")) _
    rw [hpairs, hpairs']
    exact .cons (.search hletters) .nil

end NotePager

import NotePager.Proofs.Paging.Alike
import NotePager.Proofs.Paging.Seam
import NotePager.Proofs.Paging.TitleSearch
import NotePager.Proofs.Text.CaseFold

/-!
# Listings and the case of a search

It does not matter in which case a text is searched for, nor in which case it is written in a note
(`Note.hasText_of_sameText`): texts that are the same case aside have the same length, so they are
searched for in the same way, and each of the ways is the same for all cases. Parameters that differ
in the case of the search (`Parameters.Recased`) fail alike or make requests that differ so again
(`Parameters.Recased.validate`). The selections of such requests mean the same
(`ListRequest.Recased.selection`), so the listings come to the same page.
-/

namespace NotePager

open Access Text

/-- The texts are the same, letter by letter and case aside. -/
def SameText (s t : String) : Prop := SameRun s.toList t.toList

instance (s t : String) : Decidable (SameText s t) :=
  inferInstanceAs (Decidable (List.Forall₂ _ s.toList t.toList))

/-! ## Texts -/

namespace SameText

variable {s t : String}

/-- `SameText` is reflexive. -/
theorem refl (s : String) : SameText s s := SameRun.refl _

/-- `SameText` is symmetric. -/
theorem symm (h : SameText s t) : SameText t s := SameRun.symm h

/-- Texts that are `SameText` have the same length. -/
theorem length_eq (h : SameText s t) : s.length = t.length := by
  rw [← String.length_toList, ← String.length_toList]
  exact List.Forall₂.length_eq h

/-- Texts that are `SameText` are both empty or both not. -/
theorem isEmpty_eq (h : SameText s t) : s.isEmpty = t.isEmpty := by
  rw [Bool.eq_iff_iff, String.isEmpty_iff, String.isEmpty_iff, ← String.length_eq_zero_iff,
    ← String.length_eq_zero_iff, h.length_eq]

/-- `Text.trim` leaves texts that are `SameText`. -/
theorem trim (h : SameText s t) : SameText (trim s) (Text.trim t) := by
  simp only [SameText, Text.trim, String.toList_ofList]
  exact h.trimChars

end SameText

/-- What is searched for, if anything, is the same case aside. -/
abbrev SameSearch : Option String → Option String → Prop := Option.Rel SameText

/-- `SameSearch` is reflexive. -/
theorem SameSearch.refl : ∀ search, SameSearch search search
  | none => .none
  | some text => .some (.refl text)

/-- Of two that are `SameSearch` both search for something or neither does. -/
theorem SameSearch.isSome_eq {search search' : Option String} (h : SameSearch search search') :
    search.isSome = search'.isSome := by
  cases h <;> rfl

/-! ## Notes -/

section
variable {text text' : String} {n n' : Note} (htext : SameText text text')
  (htitle : SameText n.title n'.title) (hbody : SameText n.body n'.body)
include htext htitle hbody

/-- `Note.hasText` passes from one note and text to another if titles, bodies and texts are
`SameText`, for a run of letters as well as for words. -/
theorem Note.hasText_recased (h : n.hasText text = true) : n'.hasText text' = true := by
  -- The texts are equally long, so both are searched for in the same way.
  rw [hasText, ← htext.length_eq]
  rw [hasText] at h
  by_cases hlength : wordSearchLength ≤ text.length
  · rw [if_pos hlength] at h ⊢
    obtain ⟨t, ht, hstands⟩ := wordsPredicate_iff.1 h
    obtain ⟨t', ht', hsame⟩ := exists_mem_terms_of_sameRun htext ht
    refine wordsPredicate_iff.2 ⟨t', ht', hstands.imp ?_ ?_⟩
    · exact fun hstands => hstands.congr htitle hsame
    · exact fun hstands => hstands.congr hbody hsame
  · rw [if_neg hlength, Bool.or_eq_true, occurs_iff, occurs_iff] at h ⊢
    refine h.imp ?_ ?_
    · exact fun hrun => hrun.congr htitle htext
    · exact fun hrun => hrun.congr hbody htext

/-- `Note.hasText` is the same for notes and texts if titles, bodies and texts are `SameText`. -/
theorem Note.hasText_of_sameText : n.hasText text = n'.hasText text' :=
  Bool.eq_iff_iff.2 ⟨hasText_recased htext htitle hbody,
    hasText_recased htext.symm htitle.symm hbody.symm⟩

end

/-- `Note.hasText` of any note is the same for searches that are `SameSearch`. -/
theorem SameSearch.all_hasText {search search' : Option String} (h : SameSearch search search')
    (n : Note) : search.all n.hasText = search'.all n.hasText := by
  cases h with
  | none => rfl
  | some htext => exact Note.hasText_of_sameText htext (.refl _) (.refl _)

/-! ## Requests -/

/-- The requests differ at most in the case of what is searched for. -/
structure ListRequest.Recased (r r' : ListRequest) : Prop where
  search : SameSearch r.search r'.search
  rest : r' = { r with search := r'.search }

/-- Requests that are `Recased` have selections that are `Selection.Alike`. -/
theorem ListRequest.Recased.selection {r r' : ListRequest} (h : r.Recased r') (owner : Owner) :
    (r.selection owner).Alike (r'.selection owner) := by
  have hcolor : r'.color = r.color := by rw [h.rest]
  refine ⟨rfl, ?_, ?_⟩
  · simp only [Selection.isNarrowed, ListRequest.selection, hcolor, h.search.isSome_eq]
  · rw [Selection.compile_filter, Selection.compile_filter]
    refine congrArg Except.ok (funext fun n => ?_)
    simp only [Selection.accepts, ListRequest.selection, hcolor, h.search.all_hasText n]

/-- `Listing.fetch` is `Alike` for requests that are `Recased`. -/
theorem ListRequest.Recased.alike_fetch {r r' : ListRequest} (h : r.Recased r') (s : Store)
    (owner : Owner) : Alike s s (Listing.fetch owner r) (Listing.fetch owner r') :=
  Listing.alike_fetch (.refl s) (h.selection owner) (by rw [h.rest])

/-! ## Steps that may fail -/

/-- Both fail with the same error, or both come to something, and what they come to is related. -/
inductive AgreeUpTo (R : α → β → Prop) : Except ε α → Except ε β → Prop
  | error (e : ε) : AgreeUpTo R (.error e) (.error e)
  | ok (h : R a b) : AgreeUpTo R (.ok a) (.ok b)

namespace AgreeUpTo

variable {R : α → β → Prop} {S : γ → δ → Prop} {x : Except ε α} {y : Except ε β}

/-- `AgreeUpTo` of two steps each: the first steps `AgreeUpTo` a relation, and what follows agrees
for related values. -/
theorem bind {f : α → Except ε γ} {g : β → Except ε δ} (h : AgreeUpTo R x y)
    (hnext : ∀ a b, R a b → AgreeUpTo S (f a) (g b)) : AgreeUpTo S (x >>= f) (y >>= g) := by
  cases h with
  | error e => exact .error e
  | ok h => exact hnext _ _ h

/-- A step `AgreeUpTo` equality with itself. -/
theorem same : ∀ x : Except ε α, AgreeUpTo (· = ·) x x
  | .error e => .error e
  | .ok _ => .ok rfl

/-- `AgreeUpTo` behind the same first step goes by what follows. -/
theorem after {f : α → Except ε γ} {g : α → Except ε δ} (x : Except ε α)
    (hnext : ∀ a, AgreeUpTo S (f a) (g a)) : AgreeUpTo S (x >>= f) (x >>= g) :=
  bind (same x) fun a _ hsame => hsame ▸ hnext a

end AgreeUpTo

/-! ## Parameters -/

/-- The parameters differ at most in the case of what is searched for. -/
structure Parameters.Recased (p p' : Parameters) : Prop where
  search : SameSearch p.search p'.search
  rest : p' = { p with search := p'.search }

namespace Parameters

variable {p p' : Parameters}

/-- `Recased` is reflexive. -/
theorem Recased.refl (p : Parameters) : p.Recased p := ⟨.refl _, rfl⟩

/-- `validSearch` of parameters that are `Recased` fails with the same error, or comes to searches
that are `SameSearch`. -/
theorem Recased.validSearch (h : p.Recased p') :
    AgreeUpTo SameSearch p.validSearch p'.validSearch := by
  have hsearch := h.search
  rw [Parameters.validSearch, Parameters.validSearch]
  revert hsearch
  cases p.search <;> cases p'.search <;> rintro ⟨⟩
  · exact .ok .none
  · next text text' htext =>
    have htrim := htext.trim
    simp only [Option.map_some, ← htrim.isEmpty_eq, ← htrim.length_eq]
    split
    · exact .ok .none
    · split
      · exact .error _
      · exact .ok (.some htrim)

/-- `validate` of parameters that are `Recased` fails with the same error, or comes to requests that
are `Recased`. -/
theorem Recased.validate (h : p.Recased p') :
    AgreeUpTo ListRequest.Recased p.validate p'.validate := by
  have hvalid := h.validSearch
  rw [h.rest] at hvalid ⊢
  -- Only the last step looks at what is searched for.
  refine .after p.validLimit fun limit => ?_
  refine .after p.validSort fun sort => ?_
  refine .after p.validOrder fun order => ?_
  refine .after p.checkTogether fun _ => ?_
  refine .after (p.validStart sort) fun start => ?_
  exact .bind hvalid fun search search' hsearch => .ok ⟨hsearch, rfl⟩

end Parameters

/-- `Listing.ask` is the same for parameters that are `Recased`. -/
theorem Parameters.Recased.ask {p p' : Parameters} (h : p.Recased p') (s : Store) (owner : Owner) :
    Listing.ask s owner p = Listing.ask s owner p' := by
  have hvalid := h.validate
  rw [Listing.ask, Listing.ask]
  generalize p.validate = request, p'.validate = request' at hvalid
  cases hvalid with
  | error e => rfl
  | ok hrequest => exact (hrequest.alike_fetch s owner).fst_eq { store := s }

/-! ## Query strings -/

namespace Parameters

variable {p p' : Parameters}

/-- The pairs are the same, or both give what is searched for, in two cases. -/
inductive SamePair : String × String → String × String → Prop
  | same (pair : String × String) : SamePair pair pair
  | search {text text' : String} (h : SameText text text') :
    SamePair (ParameterName.search.text, text) (ParameterName.search.text, text')

/-- `Parameters.set` to the same value keeps `Recased`. -/
theorem Recased.set (h : p.Recased p') (name : ParameterName) (value : String) :
    AgreeUpTo Recased (p.set name value) (p'.set name value) := by
  rw [Parameters.set, Parameters.set]
  split
  · exact .ok h
  · obtain ⟨hsearch, hrest⟩ := h
    rw [hrest]
    cases name with
    | limit | offset | span =>
      simp only [setTo]
      cases number value with
      | error e => exact .error e
      | ok n => exact .ok ⟨hsearch, rfl⟩
    | search => exact .ok ⟨.some (.refl value), rfl⟩
    | cursor | direction | anchor | color | sort | order => exact .ok ⟨hsearch, rfl⟩

/-- `Parameters.set` of the search to texts that are `SameText` keeps `Recased`. -/
theorem Recased.set_search (h : p.Recased p') {text text' : String} (htext : SameText text text') :
    AgreeUpTo Recased (p.set .search text) (p'.set .search text') := by
  rw [Parameters.set, Parameters.set, ← htext.isEmpty_eq, h.rest]
  split
  · exact .ok ⟨h.search, rfl⟩
  · exact .ok ⟨.some htext, rfl⟩

/-- `readPairs` of pairs that are `SamePair` one by one keeps `Recased`. -/
theorem Recased.readPairs {pairs pairs' : List (String × String)}
    (hpairs : List.Forall₂ SamePair pairs pairs') (h : p.Recased p') (seen : List ParameterName) :
    AgreeUpTo Recased (readPairs seen p pairs) (readPairs seen p' pairs') := by
  induction hpairs generalizing seen p p' with
  | nil => exact .ok h
  | @cons _ _ pairs pairs' hpair _ ih =>
    -- The rest is read behind a pair that sets a parameter alike.
    have hread (key value value' : String) (hset : ∀ name, ParameterName.ofText? key = some name →
        AgreeUpTo Recased (p.set name value) (p'.set name value')) :
        AgreeUpTo Recased (Parameters.readPairs seen p ((key, value) :: pairs))
          (Parameters.readPairs seen p' ((key, value') :: pairs')) := by
      rw [Parameters.readPairs, Parameters.readPairs]
      cases hname : ParameterName.ofText? key with
      | none => exact ih h seen
      | some name =>
        have hset := hset name hname
        dsimp only
        generalize p.set name value = q, p'.set name value' = q' at hset
        split
        · exact .error _
        · cases hset with
          | error e => exact .error _
          | ok hset => exact ih hset _
    cases hpair with
    | same => exact hread _ _ _ fun name _ => h.set name _
    | search htext =>
      refine hread _ _ _ fun name hname => ?_
      have hsearch : ParameterName.ofText? ParameterName.search.text = some .search := by decide
      cases hname.symm.trans hsearch
      exact h.set_search htext

/-- `Parameters.ofPairs` of pairs that are `SamePair` one by one fails with the same error, or comes
to parameters that are `Recased`. -/
theorem recased_ofPairs {pairs pairs' : List (String × String)}
    (hpairs : List.Forall₂ SamePair pairs pairs') :
    AgreeUpTo Recased (ofPairs pairs) (ofPairs pairs') :=
  (Recased.refl {}).readPairs hpairs []

end Parameters

end NotePager

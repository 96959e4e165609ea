import NotePager.Proofs.Paging.Walk
import NotePager.Proofs.Store.Owned

/-!
# Owners do not notice each other

What an owner is answered depends on the notes of that owner and on nothing else in the store:
listings of every kind (`Listing.outcome_only`), single notes, patches and removals
(`Operation.perform_only`). The operations of other owners leave these notes alone
(`Operation.perform_only_of_ne`). So in a sequence of events of all owners, one owner gets the same
replies as in the events of that owner alone (`repliesTo_only`), as long as the owner inserts notes
with identifiers that are not taken.
-/

namespace NotePager

open Access

/-! ## Listings -/

namespace Listing

variable {s : Store} {sel : Selection} {u : Owner}

/-- `Store.totals` of a selection of `u` reads the notes of `u` only. -/
theorem totals_only (hu : sel.owner = u) : (s.only u).totals sel = s.totals sel := by
  have hselected : (s.only u).notes.countP sel.accepts = s.notes.countP sel.accepts :=
    Store.countP_only fun n hn => (Selection.owner_of_accepts hn).trans hu
  have howned : (s.only u).notes.countP (·.owner == sel.owner)
      = s.notes.countP (·.owner == sel.owner) :=
    Store.countP_only fun n hn => (beq_iff_eq.1 hn).trans hu
  rw [Store.totals, Store.totals, hselected, howned]

/-- `Store.listed` of a selection of `u` reads the notes of `u` only. -/
theorem listed_only (hu : sel.owner = u) (sort : SortBy) (order : SortOrder) :
    (s.only u).listed sel sort order = s.listed sel sort order :=
  Store.select_only (fun _ hn => (Selection.owner_of_accepts hn).trans hu) _

/-- `Store.rowsAfter` of a selection of `u` reads the notes of `u` only. -/
theorem rowsAfter_only (hu : sel.owner = u) (sort : SortBy) (order : SortOrder) (p : Position) :
    (s.only u).rowsAfter sel sort order p = s.rowsAfter sel sort order p := by
  refine Store.select_only (fun n hn => ?_) _
  exact (Selection.owner_of_accepts (Bool.and_eq_true_iff.1 hn).1).trans hu

/-- `Store.place` for the owner `u` reads the notes of `u` only. -/
theorem place_only (u : Owner) (sort : SortBy) (cursor : Cursor) :
    (s.only u).place u sort cursor = s.place u sort cursor := by
  have hfind : (s.only u).notes.find? (fun n => n.owner == u && n.id == cursor.id)
      = s.notes.find? fun n => n.owner == u && n.id == cursor.id :=
    Store.find?_only fun n hn => beq_iff_eq.1 (Bool.and_eq_true_iff.1 hn).1
  rw [Store.place, Store.place, hfind]

/-- `Listing.outcome` for the owner `u` is the same on `s.only u` as on `s`. -/
theorem outcome_only (s : Store) (u : Owner) (r : ListRequest) :
    outcome (s.only u) u r = outcome s u r := by
  have hu : (r.selection u).owner = u := rfl
  cases hr : r.start with
  | cursor cursor direction =>
    cases cursor with
    | none => simp only [outcome, hr, totals_only hu, listed_only hu]
    | some cursor =>
      cases direction with
      | next => simp only [outcome, hr, totals_only hu, rowsAfter_only hu, place_only]
      | prev => simp only [outcome, hr, totals_only hu, rowsAfter_only hu, place_only]
  | offset offset => simp only [outcome, hr, totals_only hu, listed_only hu]
  | anchor anchor span =>
    have hanchor : (s.only u).notes.find? (fun n => (r.selection u).accepts n && n.id == anchor.id)
        = s.notes.find? fun n => (r.selection u).accepts n && n.id == anchor.id := by
      refine Store.find?_only fun n hn => ?_
      exact (Selection.owner_of_accepts (Bool.and_eq_true_iff.1 hn).1).trans hu
    simp only [outcome, hr, hanchor, totals_only hu, rowsAfter_only hu]

end Listing

/-! ## Operations -/

/-- What an owner may do with the notes of a store. -/
inductive Operation where
  | list (r : ListRequest)
  | find (id : NoteId)
  | insert (draft : Draft) (id : NoteId) (now : Instant)
  | update (id : NoteId) (patch : Patch) (now : Instant)
  | delete (id : NoteId)

/-- What the owner is answered. -/
inductive Reply where
  | page (outcome : Except (Halt ListError) Page)
  | found (outcome : Except (Halt StoreError) (Option Note))
  | inserted (outcome : Except (Halt StoreError) Note)
  | updated (outcome : Except (Halt StoreError) (Option Note))
  | deleted (outcome : Except (Halt StoreError) Bool)

namespace Operation

/-- The reply to an operation of the owner, and the store after it. -/
def perform (u : Owner) (s : Store) : Operation → Reply × Store
  | list r =>
    let (outcome, s) := (Listing.fetch u r).on s
    (.page outcome, s)
  | find id =>
    let (outcome, s) := (Access.findOne (.ownedNote u id)).on s
    (.found outcome, s)
  | insert draft id now =>
    let (outcome, s) := (Access.insert (draft.note id u now)).on s
    (.inserted outcome, s)
  | update id patch now =>
    let (outcome, s) := (Access.update u id patch now).on s
    (.updated outcome, s)
  | delete id =>
    let (outcome, s) := (Access.delete u id).on s
    (.deleted outcome, s)

/-- The operation inserts no note with an identifier that is taken. -/
def IsNew (s : Store) : Operation → Prop
  | insert _ id _ => ∀ n ∈ s.notes, n.id ≠ id
  | _ => True

instance (s : Store) (op : Operation) : Decidable (op.IsNew s) :=
  match op with
  | insert _ id _ => inferInstanceAs (Decidable (∀ n ∈ s.notes, n.id ≠ id))
  | list _ | find _ | update .. | delete _ => inferInstanceAs (Decidable True)

variable {u v : Owner} {s : Store} {op : Operation}

/-- `Operation.perform` for the owner `u` commutes with `Store.only`: it gives the same reply on
`s.only u` and leaves the `u` part of what it leaves on `s`. -/
theorem perform_only (hnew : op.IsNew s) :
    op.perform u (s.only u) = ((op.perform u s).1, (op.perform u s).2.only u) := by
  cases op with
  | list r =>
    simp only [perform, (Listing.ends_fetch s u r).on_eq, (Listing.ends_fetch (s.only u) u r).on_eq,
      Listing.outcome_only]
  | find id =>
    have hfind : (s.only u).notes.find? (fun n => n.owner == u && n.id == id)
        = s.notes.find? fun n => n.owner == u && n.id == id :=
      Store.find?_only fun n hn => beq_iff_eq.1 (Bool.and_eq_true_iff.1 hn).1
    have hends (s : Store) := Ends.findOne (s := s) (Filter.compile_ownedNote u id)
    simp only [perform, (hends s).on_eq, (hends (s.only u)).on_eq, hfind]
  | insert draft id now =>
    obtain ⟨hs, hu⟩ := Store.insert_only (u := u) (draft.note id u now) hnew rfl
    simp only [perform, (Ends.insert _).on_eq, hs, hu, Option.getD_some]
  | update id patch now =>
    simp only [perform, (Ends.update u id patch now).on_eq, Store.update_only]
  | delete id => simp only [perform, (Ends.delete u id).on_eq, Store.delete_only]

/-- `Operation.perform` for another owner leaves `s.only u` unchanged. -/
theorem perform_only_of_ne (h : v ≠ u) (op : Operation) :
    (op.perform v s).2.only u = s.only u := by
  cases op with
  | list r => simp only [perform, (Listing.ends_fetch s v r).on_eq]
  | find id => simp only [perform, (Ends.findOne (Filter.compile_ownedNote v id)).on_eq]
  | insert draft id now =>
    simp only [perform, (Ends.insert _).on_eq]
    exact Store.insert_only_of_ne (draft.note id v now) h
  | update id patch now =>
    simp only [perform, (Ends.update v id patch now).on_eq]
    exact Store.update_only_of_ne h id patch now
  | delete id =>
    simp only [perform, (Ends.delete v id).on_eq]
    exact Store.delete_only_of_ne h id

end Operation

/-! ## Runs -/

/-- An operation, and whose it is. -/
structure Event where
  actor : Owner
  operation : Operation

/-- The replies that an owner gets while operations are performed one after another. -/
def repliesTo (u : Owner) (s : Store) : List Event → List Reply
  | [] => []
  | e :: es =>
    let (reply, s) := e.operation.perform e.actor s
    if e.actor = u then reply :: repliesTo u s es else repliesTo u s es

/-- The owner inserts no note with an identifier that is taken. -/
def InsertsNew (u : Owner) (s : Store) : List Event → Prop
  | [] => True
  | e :: es => (e.actor = u → e.operation.IsNew s)
    ∧ InsertsNew u (e.operation.perform e.actor s).2 es

/-- `repliesTo u` is the same on `s.only u` with the events of `u` alone as on `s` with all events,
when `u` inserts new identifiers only. -/
theorem repliesTo_only {u : Owner} {s : Store} {es : List Event} (hnew : InsertsNew u s es) :
    repliesTo u (s.only u) (es.filter (·.actor == u)) = repliesTo u s es := by
  induction es generalizing s with
  | nil => rfl
  | cons e es ih =>
    obtain ⟨hfirst, hothers⟩ := hnew
    have hrest := ih hothers
    by_cases he : e.actor = u
    · have hperform := Operation.perform_only (u := u) (hfirst he)
      rw [he] at hrest
      simp only [List.filter_cons, he, beq_self_eq_true, if_true, repliesTo, hperform, hrest]
    · have hperform := Operation.perform_only_of_ne (s := s) he e.operation
      rw [hperform] at hrest
      simp only [List.filter_cons, beq_eq_false_iff_ne.2 he, Bool.false_eq_true, if_false,
        repliesTo, he, hrest]

/-- For stores with the same notes of `u` (`Store.only`), `Listing.answer` and `Access.findOne` give
the same, and so do `Access.update` and `Access.delete`, which leave stores with the same notes of
`u` and the notes of others as they were. An insertion, patch or removal by another owner leaves
`s.only u` unchanged. So `repliesTo u` of a sequence of events depends on the events of `u` only, as
long as `u` inserts new identifiers (`InsertsNew`). -/
theorem owner_isolated (u : Owner) {s t : Store} (h : s.only u = t.only u) :
    (∀ r, Listing.answer s u r = Listing.answer t u r)
    ∧ (∀ id, ((Access.findOne (.ownedNote u id)).on s).1
        = ((Access.findOne (.ownedNote u id)).on t).1)
    ∧ (∀ id patch now,
        ((Access.update u id patch now).on s).1 = ((Access.update u id patch now).on t).1
        ∧ ((Access.update u id patch now).on s).2.only u
          = ((Access.update u id patch now).on t).2.only u
        ∧ ((Access.update u id patch now).on s).2.notes.filter (·.owner != u)
          = s.notes.filter (·.owner != u))
    ∧ (∀ id, ((Access.delete u id).on s).1 = ((Access.delete u id).on t).1
        ∧ ((Access.delete u id).on s).2.only u = ((Access.delete u id).on t).2.only u
        ∧ ((Access.delete u id).on s).2.notes.filter (·.owner != u)
          = s.notes.filter (·.owner != u))
    ∧ (∀ note, note.owner ≠ u → ((Access.insert note).on s).2.only u = s.only u)
    ∧ (∀ v, v ≠ u → ∀ id patch now, ((Access.update v id patch now).on s).2.only u = s.only u)
    ∧ (∀ v, v ≠ u → ∀ id, ((Access.delete v id).on s).2.only u = s.only u)
    ∧ ∀ es fs : List Event, es.filter (·.actor == u) = fs.filter (·.actor == u) →
        InsertsNew u s es → InsertsNew u t fs → repliesTo u s es = repliesTo u t fs := by
  have hanswer (op : Operation) (hs : op.IsNew s) (ht : op.IsNew t) :
      (op.perform u s).1 = (op.perform u t).1
        ∧ (op.perform u s).2.only u = (op.perform u t).2.only u := by
    have hperform := Operation.perform_only (u := u) hs
    rw [h, Operation.perform_only ht] at hperform
    exact ⟨(congrArg Prod.fst hperform).symm, (congrArg Prod.snd hperform).symm⟩
  refine ⟨fun r => ?_, fun id => ?_, fun id patch now => ⟨?_, ?_, ?_⟩, fun id => ⟨?_, ?_, ?_⟩,
    fun note hnote => ?_, fun v hv id patch now => ?_, fun v hv id => ?_,
    fun es fs hevents hs ht => ?_⟩
  · exact Reply.page.inj (hanswer (.list r) trivial trivial).1
  · exact Reply.found.inj (hanswer (.find id) trivial trivial).1
  · exact Reply.updated.inj (hanswer (.update id patch now) trivial trivial).1
  · exact (hanswer (.update id patch now) trivial trivial).2
  · rw [(Ends.update u id patch now).on_eq]
    exact Store.update_others u id patch now
  · exact Reply.deleted.inj (hanswer (.delete id) trivial trivial).1
  · exact (hanswer (.delete id) trivial trivial).2
  · rw [(Ends.delete u id).on_eq]
    exact Store.delete_others u id
  · rw [(Ends.insert note).on_eq]
    exact Store.insert_only_of_ne note hnote
  · exact Operation.perform_only_of_ne hv (.update id patch now)
  · exact Operation.perform_only_of_ne hv (.delete id)
  · rw [← repliesTo_only hs, ← repliesTo_only ht, h, hevents]

/-- `owner_isolated` for `teaStore` with and without a note of a third owner: an insertion and a
listing of the first owner have the same replies, whether the second owner's removal or the third
owner's patch comes in between. -/
theorem owner_isolated_teaStore :
    repliesTo ⟨"ann"⟩ Listing.teaStore [
        ⟨⟨"ben"⟩, .delete ⟨9⟩⟩,
        ⟨⟨"ann"⟩, .insert {} ⟨5⟩ (.ofSeconds 1)⟩,
        ⟨⟨"ann"⟩, .list Listing.teaRequest⟩]
      = repliesTo ⟨"ann"⟩ ⟨Listing.teaNote 8 "cy" :: Listing.teaStore.notes⟩ [
        ⟨⟨"ann"⟩, .insert {} ⟨5⟩ (.ofSeconds 1)⟩,
        ⟨⟨"cy"⟩, .update ⟨8⟩ { title := some "Coffee" } (.ofSeconds 2)⟩,
        ⟨⟨"ann"⟩, .list Listing.teaRequest⟩] := by
  have honly : Listing.teaStore.only ⟨"ann"⟩
      = Store.only ⟨Listing.teaNote 8 "cy" :: Listing.teaStore.notes⟩ ⟨"ann"⟩ := rfl
  obtain ⟨-, -, -, -, -, -, -, hreplies⟩ := owner_isolated ⟨"ann"⟩ honly
  refine hreplies _ _ rfl ⟨?_, ?_, ?_, trivial⟩ ⟨?_, ?_, ?_, trivial⟩
  all_goals decide

end NotePager

import NotePager.Proofs.Paging.Selection
import NotePager.Proofs.Store.Quiet
import NotePager.Proofs.Store.Writes

/-!
# What a store remembers

A store is a map from identifiers to notes. A log keeps the changes that writes have made to it, as
they can be read off the replies of the store (`StoreWrite.perform`). Whatever was written, the
notes of the store are the last ones that its log has for their identifiers (`Log.Explains`): each
text of a note is the one that was set last, and a note is not there when it was never written or
has been removed since.
-/

namespace NotePager

/-! ## Changes -/

/-- A text of the note. -/
def Note.text (n : Note) : NoteText → String
  | .title => n.title
  | .body => n.body
  | .color => n.color

/-- The new value of a text, if the patch sets it. -/
def Patch.text? (p : Patch) : NoteText → Option String
  | .title => p.title
  | .body => p.body
  | .color => p.color

/-- `Patch.apply` sets the texts that the patch has and keeps the others. -/
theorem Patch.text_apply (p : Patch) (n : Note) (now : Instant) (text : NoteText) :
    (p.apply n now).text text = (p.text? text).getD (n.text text) := by
  cases text <;> rfl

/-- What a write that succeeds has done. -/
inductive Change where
  /-- The note was inserted. -/
  | inserted (note : Note)
  /-- The patch was applied, and left this note. -/
  | patched (patch : Patch) (note : Note)
  /-- The note with this identifier was removed. -/
  | removed (id : NoteId)

namespace Change

/-- The identifier of the note that was written. -/
def id : Change → NoteId
  | inserted note | patched _ note => note.id
  | removed id => id

/-- The note as it was written, if it is still there. -/
def note? : Change → Option Note
  | inserted note | patched _ note => some note
  | removed _ => none

/-- The new value of a text, if the change has set it. -/
def text? (text : NoteText) : Change → Option String
  | inserted note => some (note.text text)
  | patched patch _ => patch.text? text
  | removed _ => none

/-- The note of a `Change` has the change's identifier. -/
theorem id_of_note? {c : Change} {n : Note} (h : c.note? = some n) : n.id = c.id := by
  cases c with
  | inserted note => rw [← Option.some.inj h, id]
  | patched patch note => rw [← Option.some.inj h, id]
  | removed id => cases h

end Change

/-- What a write has done to a store, by the reply of the store, and the store after it. -/
def StoreWrite.perform (s : Store) : StoreWrite → Option Change × Store
  | insert note =>
    let (reply, s) := (Access.insert note).on s
    (reply.toOption.map .inserted, s)
  | update owner id patch now =>
    let (reply, s) := (Access.update owner id patch now).on s
    (reply.toOption.join.map (.patched patch), s)
  | delete owner id =>
    let (reply, s) := (Access.delete owner id).on s
    (if reply.toOption = some true then some (.removed id) else none, s)

namespace StoreWrite

variable {s : Store}

/-- `StoreWrite.perform` leaves the store of `StoreWrite.apply`. -/
theorem perform_store (w : StoreWrite) : (w.perform s).2 = w.apply s := by
  cases w with
  | insert note => simp only [perform, (Access.Ends.insert note).on_eq, apply]
  | update owner id patch now =>
    simp only [perform, (Access.Ends.update owner id patch now).on_eq, apply]
  | delete owner id => simp only [perform, (Access.Ends.delete owner id).on_eq, apply]

/-- An insertion with a taken identifier is no change. -/
theorem perform_insert_of_taken {note : Note} (h : ∃ n ∈ s.notes, n.id = note.id) :
    perform s (.insert note) = (none, s) := by
  simp only [perform, (Access.Ends.insert note).on_eq, Store.insert_of_taken h]
  rfl

/-- An insertion with a new identifier is `Change.inserted`. -/
theorem perform_insert_of_new {note : Note} (h : ∀ n ∈ s.notes, n.id ≠ note.id) :
    perform s (.insert note) = (some (.inserted note), ⟨s.notes ++ [note]⟩) := by
  simp only [perform, (Access.Ends.insert note).on_eq, Store.insert_of_new h]
  rfl

section
variable {owner : Owner} {id : NoteId} {front back : List Note} {n : Note}

theorem perform_update_of_absent (h : ∀ n ∈ s.notes, n.id = id → n.owner ≠ owner) (patch : Patch)
    (now : Instant) : perform s (.update owner id patch now) = (none, s) := by
  simp only [perform, (Access.Ends.update owner id patch now).on_eq, Store.update_of_absent h]
  rfl

theorem perform_update_of_cut (hs : s.DistinctIds) (hcut : s.notes = front ++ n :: back)
    (hid : n.id = id) (howner : n.owner = owner) (patch : Patch) (now : Instant) :
    perform s (.update owner id patch now)
      = (some (.patched patch (patch.apply n now)), ⟨front ++ patch.apply n now :: back⟩) := by
  simp only [perform, (Access.Ends.update owner id patch now).on_eq,
    Store.update_of_cut hs hcut hid howner]
  rfl

theorem perform_delete_of_absent (h : ∀ n ∈ s.notes, n.id = id → n.owner ≠ owner) :
    perform s (.delete owner id) = (none, s) := by
  simp only [perform, (Access.Ends.delete owner id).on_eq, Store.delete_of_absent h]
  rfl

theorem perform_delete_of_cut (hs : s.DistinctIds) (hcut : s.notes = front ++ n :: back)
    (hid : n.id = id) (howner : n.owner = owner) :
    perform s (.delete owner id) = (some (.removed id), ⟨front ++ back⟩) := by
  simp only [perform, (Access.Ends.delete owner id).on_eq,
    Store.delete_of_cut hs hcut hid howner]
  rfl

end

end StoreWrite

/-! ## Logs -/

/-- A store and the changes that were made to it, the last one first. -/
structure Log where
  store : Store
  changes : List Change

namespace Log

/-- The log that begins with a store. The notes in it count as inserted. -/
def begin (s : Store) : Log := ⟨s, s.notes.map .inserted⟩

/-- The log after one more write. -/
def write (log : Log) (w : StoreWrite) : Log :=
  let (change, s) := w.perform log.store
  ⟨s, change.toList ++ log.changes⟩

/-- The log of some writes to a store, one after another. -/
def after (s : Store) (ws : List StoreWrite) : Log := ws.foldl write (begin s)

/-- The changes to the note with an identifier. -/
def changesOf (log : Log) (id : NoteId) : List Change := log.changes.filter (·.id == id)

/-- The note that was written last with an identifier, if it was not removed since. -/
def note? (log : Log) (id : NoteId) : Option Note := (log.changesOf id).head?.bind Change.note?

/-- The value to which a text of the note with an identifier was set last. -/
def text? (log : Log) (id : NoteId) (text : NoteText) : Option String :=
  (log.changesOf id).findSome? (·.text? text)

/-- The notes of the store are those that were written last with their identifiers, and each of
their texts is what was set last. -/
structure Explains (log : Log) : Prop where
  distinct : log.store.DistinctIds
  written : ∀ id n, log.note? id = some n ↔ n ∈ log.store.notes ∧ n.id = id
  texts : ∀ n ∈ log.store.notes, ∀ text, log.text? n.id text = some (n.text text)

variable {s : Store} {log : Log} {c : Change}

/-- `Log.begin` has one change for each note of the store, its insertion. -/
theorem changesOf_begin (hs : s.DistinctIds) {n : Note} (hn : n ∈ s.notes) :
    (begin s).changesOf n.id = [.inserted n] := by
  obtain ⟨front, back, hcut⟩ := List.append_of_mem hn
  have hothers (notes : List Note) (hsub : notes ⊆ front ++ back) :
      notes.filter (·.id == n.id) = [] :=
    List.filter_eq_nil_iff.2 fun m hm hid =>
      hs.ne_of_cut hcut m (hsub hm) (beq_iff_eq.1 hid)
  have hfilter : s.notes.filter (·.id == n.id) = [n] := by
    rw [hcut, List.filter_append, List.filter_cons, beq_self_eq_true,
      hothers front (List.subset_append_left _ _), hothers back (List.subset_append_right _ _)]
    rfl
  rw [changesOf, begin, List.filter_map]
  exact congrArg (List.map Change.inserted) hfilter

/-- `Log.begin` satisfies `Explains`. -/
theorem Explains.begin (hs : s.DistinctIds) : (begin s).Explains where
  distinct := hs
  written id n := by
    constructor
    · intro h
      obtain ⟨c, hc, hn⟩ := Option.bind_eq_some_iff.1 h
      obtain ⟨hmem, hid⟩ := List.mem_filter.1 (List.mem_of_head? hc)
      obtain ⟨m, hm, rfl⟩ := List.mem_map.1 hmem
      rw [← Option.some.inj hn]
      exact ⟨hm, beq_iff_eq.1 hid⟩
    · rintro ⟨hn, rfl⟩
      rw [Log.note?, changesOf_begin hs hn]
      rfl
  texts n hn text := by
    rw [Log.text?, changesOf_begin hs hn]
    rfl

/-- `Explains` is kept by a further change `c`, for a store that holds the note of `c`, if any, and
otherwise the notes that were there. -/
theorem Explains.cons (h : log.Explains) (hs : s.DistinctIds)
    (hnote : ∀ n, n.id = c.id → (n ∈ s.notes ↔ c.note? = some n))
    (hothers : ∀ n, n.id ≠ c.id → (n ∈ s.notes ↔ n ∈ log.store.notes))
    (htext : ∀ n, c.note? = some n → ∀ text,
      (c.text? text).or (log.text? c.id text) = some (n.text text)) :
    Explains ⟨s, c :: log.changes⟩ := by
  have hself : changesOf ⟨s, c :: log.changes⟩ c.id = c :: log.changesOf c.id :=
    List.filter_cons_of_pos (beq_self_eq_true c.id)
  have hother (id : NoteId) (hid : id ≠ c.id) :
      changesOf ⟨s, c :: log.changes⟩ id = log.changesOf id :=
    List.filter_cons_of_neg fun heq => hid (beq_iff_eq.1 heq).symm
  refine ⟨hs, fun id n => ?_, fun n hn text => ?_⟩
  · by_cases hid : id = c.id
    · subst hid
      rw [note?, hself, List.head?_cons, Option.bind_some]
      constructor
      · intro hn
        have hid := Change.id_of_note? hn
        exact ⟨(hnote n hid).2 hn, hid⟩
      · rintro ⟨hn, hid⟩
        exact (hnote n hid).1 hn
    · rw [note?, hother id hid]
      refine (h.written id n).trans (and_congr_left fun hn => ?_)
      exact (hothers n (hn ▸ hid)).symm
  · by_cases hid : n.id = c.id
    · have hset := htext n ((hnote n hid).1 hn) text
      rw [text?, hid, hself, List.findSome?_cons]
      cases hc : c.text? text with
      | none => rwa [hc, Option.none_or] at hset
      | some value => rwa [hc, Option.some_or] at hset
    · rw [text?, hother n.id hid]
      exact h.texts n ((hothers n hid).1 hn) text

/-- `Log.write` keeps `Explains`. -/
theorem Explains.write (h : log.Explains) (w : StoreWrite) : (log.write w).Explains := by
  have hdistinct : (w.perform log.store).2.DistinctIds := by
    rw [w.perform_store]
    exact w.distinctIds_apply h.distinct
  cases w with
  | insert note =>
    by_cases htaken : ∃ n ∈ log.store.notes, n.id = note.id
    · rw [Log.write, StoreWrite.perform_insert_of_taken htaken]
      exact h
    · push Not at htaken
      rw [StoreWrite.perform_insert_of_new htaken] at hdistinct
      rw [Log.write, StoreWrite.perform_insert_of_new htaken]
      refine h.cons hdistinct (fun m hm => ?_) (fun m hm => ?_) (fun m hm text => ?_)
      · have hmem := List.mem_append_right log.store.notes (List.mem_singleton_self note)
        exact (hdistinct.mem_iff_of_id hmem hm).trans Option.some_inj.symm
      · exact (Store.mem_cut_iff_of_ne hm).trans (by rw [List.append_nil])
      · rw [← Option.some.inj hm]
        rfl
  | update owner id patch now =>
    obtain habsent | ⟨front, n, back, hcut, hid, howner⟩ := log.store.absent_or_cut owner id
    · rw [Log.write, StoreWrite.perform_update_of_absent habsent]
      exact h
    · have hperform := StoreWrite.perform_update_of_cut h.distinct hcut hid howner patch now
      rw [hperform] at hdistinct
      rw [Log.write, hperform]
      refine h.cons hdistinct (fun m hm => ?_) (fun m hm => ?_) (fun m hm text => ?_)
      · have hmem : patch.apply n now ∈ front ++ patch.apply n now :: back := by simp
        exact (hdistinct.mem_iff_of_id hmem hm).trans Option.some_inj.symm
      · have hne : m.id ≠ n.id := hm
        rw [hcut]
        exact (Store.mem_cut_iff_of_ne hm).trans (Store.mem_cut_iff_of_ne hne).symm
      · have hn : n ∈ log.store.notes := by simp [hcut]
        calc (patch.text? text).or (log.text? n.id text)
            = (patch.text? text).or (some (n.text text)) := by rw [h.texts n hn text]
          _ = some ((patch.apply n now).text text) := by rw [Option.or_some, patch.text_apply]
          _ = some (m.text text) := by rw [Option.some.inj hm]
  | delete owner id =>
    obtain habsent | ⟨front, n, back, hcut, hid, howner⟩ := log.store.absent_or_cut owner id
    · rw [Log.write, StoreWrite.perform_delete_of_absent habsent]
      exact h
    · have hperform := StoreWrite.perform_delete_of_cut h.distinct hcut hid howner
      rw [hperform] at hdistinct
      rw [Log.write, hperform]
      refine h.cons hdistinct (fun m hm => ?_) (fun m hm => ?_) (fun m hm => nomatch hm)
      · refine iff_of_false (fun hmem => ?_) (nomatch ·)
        exact h.distinct.ne_of_cut hcut m hmem (hm.trans hid.symm)
      · rw [hcut]
        exact (Store.mem_cut_iff_of_ne (hid ▸ hm)).symm

/-- `Log.after` any writes satisfies `Explains`. -/
theorem Explains.after (hs : s.DistinctIds) (ws : List StoreWrite) : (after s ws).Explains := by
  have hrun (log : Log) (h : log.Explains) : (ws.foldl Log.write log).Explains := by
    induction ws generalizing log with
    | nil => exact h
    | cons w ws ih => exact ih (log.write w) (h.write w)
  exact hrun _ (.begin hs)

/-- After any sequence of writes the identifiers are distinct. An insertion fails, and leaves the
store unchanged, exactly when the identifier is taken, by any owner. A patch and a removal reach the
owner's note with the identifier, if there is one, and no other note. `Access.findOne` by owner and
identifier gives `Log.note?`, the note that was written last with the identifier and not removed
since, if it is the owner's, and each of its texts is what was set last (`Log.text?`). -/
theorem after_refines_map (hs : s.DistinctIds) (ws : List StoreWrite) :
    let log := after s ws
    let t := log.store
    t.DistinctIds
    ∧ (∀ note, (∃ n ∈ t.notes, n.id = note.id) → (Access.insert note).on t
        = (.error (.failed (.queryFailed .insert ("duplicate id " ++ note.id.toHex))), t))
    ∧ (∀ note, (∀ n ∈ t.notes, n.id ≠ note.id) →
        (Access.insert note).on t = (.ok note, ⟨t.notes ++ [note]⟩))
    ∧ (∀ owner id patch now, (∀ n ∈ t.notes, n.id = id → n.owner ≠ owner) →
        (Access.update owner id patch now).on t = (.ok none, t))
    ∧ (∀ owner id patch now front n back,
        t.notes = front ++ n :: back → n.id = id → n.owner = owner →
          let patched : Note := { n with
            title := patch.title.getD n.title
            body := patch.body.getD n.body
            color := patch.color.getD n.color
            updatedAt := now }
          (Access.update owner id patch now).on t
            = (.ok (some patched), ⟨front ++ patched :: back⟩))
    ∧ (∀ owner id, (∀ n ∈ t.notes, n.id = id → n.owner ≠ owner) →
        (Access.delete owner id).on t = (.ok false, t))
    ∧ (∀ owner id front n back, t.notes = front ++ n :: back → n.id = id → n.owner = owner →
        (Access.delete owner id).on t = (.ok true, ⟨front ++ back⟩))
    ∧ (∀ owner id, ∃ found, (Access.findOne (.ownedNote owner id)).on t = (.ok found, t)
        ∧ ∀ n, found = some n ↔ log.note? id = some n ∧ n.owner = owner)
    ∧ ∀ id n, log.note? id = some n → ∀ text, log.text? id text = some (n.text text) := by
  intro log t
  have h : log.Explains := .after hs ws
  refine ⟨h.distinct, fun note htaken => ?_, fun note hnew => ?_,
    fun owner id patch now habsent => ?_, fun owner id patch now front n back hcut hid howner => ?_,
    fun owner id habsent => ?_, fun owner id front n back hcut hid howner => ?_,
    fun owner id => ?_, fun id n hn text => ?_⟩
  · rw [(Access.Ends.insert note).on_eq, Store.insert_of_taken htaken]
    rfl
  · rw [(Access.Ends.insert note).on_eq, Store.insert_of_new hnew]
    rfl
  · rw [(Access.Ends.update owner id patch now).on_eq, Store.update_of_absent habsent]
    rfl
  · rw [(Access.Ends.update owner id patch now).on_eq,
      Store.update_of_cut h.distinct hcut hid howner]
    rfl
  · rw [(Access.Ends.delete owner id).on_eq, Store.delete_of_absent habsent]
    rfl
  · rw [(Access.Ends.delete owner id).on_eq, Store.delete_of_cut h.distinct hcut hid howner]
    rfl
  · have hcompile := Filter.compile_ownedNote owner id
    refine ⟨_, (Access.Ends.findOne hcompile).on_eq, fun n => ?_⟩
    rw [h.written id n]
    constructor
    · intro hfound
      have howned := List.find?_some hfound
      simp only [Bool.and_eq_true, beq_iff_eq] at howned
      exact ⟨⟨List.mem_of_find?_eq_some hfound, howned.2⟩, howned.1⟩
    · rintro ⟨⟨hn, rfl⟩, rfl⟩
      exact h.distinct.find?_eq_some hn (beq_self_eq_true n.owner)
  · obtain ⟨hmem, rfl⟩ := (h.written id n).1 hn
    exact h.texts n hmem text

/-- `after_refines_map` for two owners: a note that is patched, writes of the other owner under its
identifier, and a note that is removed. -/
theorem after_refines_map_tea :
    let tea (id : NoteId) (owner : String) : Note :=
      Draft.note { title := "Tea", body := "Green" } id ⟨owner⟩ (.ofSeconds 0)
    let log := after {} [
      .insert (tea ⟨1⟩ "ann"),
      .insert (tea ⟨1⟩ "ben"),
      .update ⟨"ben"⟩ ⟨1⟩ { body := some "Black" } (.ofSeconds 1),
      .update ⟨"ann"⟩ ⟨1⟩ { title := some "Coffee" } (.ofSeconds 2),
      .delete ⟨"ben"⟩ ⟨1⟩,
      .insert (tea ⟨2⟩ "ann"),
      .delete ⟨"ann"⟩ ⟨2⟩]
    log.store.DistinctIds
    ∧ ((Access.findOne (.ownedNote ⟨"ann"⟩ ⟨1⟩)).on log.store).1.toOption
      = some (some { tea ⟨1⟩ "ann" with title := "Coffee", updatedAt := .ofSeconds 2 })
    ∧ ((Access.findOne (.ownedNote ⟨"ann"⟩ ⟨2⟩)).on log.store).1.toOption = some none := by
  intro tea log
  obtain ⟨hdistinct, -, -, -, -, -, -, hfind, -⟩ := after_refines_map (s := {}) List.nodup_nil _
  have hfirst : log.note? ⟨1⟩
      = some { tea ⟨1⟩ "ann" with title := "Coffee", updatedAt := .ofSeconds 2 } := by
    decide +kernel
  have hsecond : log.note? ⟨2⟩ = none := by decide +kernel
  refine ⟨hdistinct, ?_, ?_⟩
  · obtain ⟨found, hfound, hlast⟩ := hfind ⟨"ann"⟩ ⟨1⟩
    rw [hfound, (hlast _).2 ⟨hfirst, rfl⟩]
    rfl
  · obtain ⟨found, hfound, hlast⟩ := hfind ⟨"ann"⟩ ⟨2⟩
    have hnone : found = none := by
      refine Option.eq_none_iff_forall_ne_some.2 fun n hn => ?_
      cases hsecond.symm.trans ((hlast n).1 hn).1
    rw [hfound, hnone]
    rfl

end Log

end NotePager

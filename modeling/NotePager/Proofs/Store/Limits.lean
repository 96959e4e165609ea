import NotePager.Proofs.Store.Log

/-!
# Limits of texts

A draft and a patch are checked by two functions of their own, but both have the same error: the
first text over its limit, in the order title, body, color (`Draft.check_eq`, `Patch.check_eq`).
What they let pass leaves all notes of a store within the limits (`StoreWrite.apply_fits`), and
every write `Keeps` the identifier, owner and time of creation of the notes that stay
(`StoreWrite.apply_keeps`).
-/

namespace NotePager

/-! ## Texts over their limits -/

/-- Texts that are given keep their limits. -/
def TextsFit (value : NoteText → Option String) : Prop :=
  ∀ text, ∀ v ∈ value text, v.length ≤ text.limit

/-- The first text over its limit. -/
def firstOver (value : NoteText → Option String) : Option NoteText :=
  [.title, .body, .color].find? fun text => (value text).any (text.limit < ·.length)

/-- The texts of a draft are all given. -/
def Draft.text? (d : Draft) : NoteText → Option String
  | .title => some d.title
  | .body => some d.body
  | .color => some d.color

/-- `firstOver` finds nothing exactly when `TextsFit`. -/
theorem firstOver_eq_none_iff {value : NoteText → Option String} :
    firstOver value = none ↔ TextsFit value := by
  have hover (text : NoteText) : (value text).any (text.limit < ·.length) = false
      ↔ ∀ v ∈ value text, v.length ≤ text.limit := by
    cases value text <;> simp
  simp only [firstOver, List.find?_eq_none, List.mem_cons, List.not_mem_nil, or_false,
    forall_eq_or_imp, forall_eq, Bool.not_eq_true, hover, TextsFit]
  exact ⟨fun ⟨htitle, hbody, hcolor⟩ text => by cases text <;> assumption,
    fun h => ⟨h .title, h .body, h .color⟩⟩

/-- The outcome of a check for the first text over its limit. -/
def overLimit : Option NoteText → Except TextTooLong Unit
  | none => .ok ()
  | some text => .error ⟨text, text.limit⟩

/-- `NoteText.check` of a text that may be absent fails when the text is over its limit. -/
theorem NoteText.forM_check (text : NoteText) (value : Option String) :
    value.forM text.check
      = if value.any (text.limit < ·.length) then .error ⟨text, text.limit⟩ else .ok () := by
  cases value with
  | none => rfl
  | some v =>
    simp only [Option.any_some, decide_eq_true_eq, ← Nat.not_le, ite_not]
    rfl

/-- Checking title, body and color in sequence is `overLimit` of `firstOver`. -/
theorem forM_check_eq (value : NoteText → Option String) :
    (do
      (value .title).forM NoteText.title.check
      (value .body).forM NoteText.body.check
      (value .color).forM NoteText.color.check) = overLimit (firstOver value) := by
  simp only [NoteText.forM_check, firstOver, List.find?_cons, List.find?_nil]
  generalize (value .title).any _ = title, (value .body).any _ = body, (value .color).any _ = color
  cases title <;> cases body <;> cases color <;> rfl

/-- `Draft.check` is `overLimit` of `firstOver`. -/
theorem Draft.check_eq (d : Draft) : d.check = overLimit (firstOver d.text?) :=
  forM_check_eq d.text?

/-- `Patch.check` is `overLimit` of `firstOver`. -/
theorem Patch.check_eq (p : Patch) : p.check = overLimit (firstOver p.text?) :=
  forM_check_eq p.text?

/-! ## Notes within the limits -/

/-- No text of the note is over its limit, in characters. -/
structure Note.Fits (n : Note) : Prop where
  title : n.title.length ≤ 200
  body : n.body.length ≤ 100000
  color : n.color.length ≤ 32

variable {s : Store}

/-- `Note.Fits`, text by text. -/
theorem Note.fits_iff {n : Note} : n.Fits ↔ ∀ text, (n.text text).length ≤ text.limit :=
  ⟨fun ⟨htitle, hbody, hcolor⟩ text => by cases text <;> assumption,
    fun h => ⟨h .title, h .body, h .color⟩⟩

/-- `Draft.note` of a draft whose `TextsFit` fits. -/
theorem Draft.note_fits {d : Draft} (h : TextsFit d.text?) (id : NoteId) (owner : Owner)
    (now : Instant) : (d.note id owner now).Fits :=
  ⟨h .title _ rfl, h .body _ rfl, h .color _ rfl⟩

/-- `Patch.apply` of a patch whose `TextsFit` keeps `Note.Fits`. -/
theorem Patch.apply_fits {p : Patch} {n : Note} (hp : TextsFit p.text?) (hn : n.Fits)
    (now : Instant) : (p.apply n now).Fits := by
  rw [Note.fits_iff] at hn ⊢
  intro text
  rw [Patch.text_apply]
  cases hvalue : p.text? text with
  | none => exact hn text
  | some v => exact hp text v hvalue

/-! ## Writes within the limits -/

namespace StoreWrite

/-- The write brings no text over its limit. -/
def Fits : StoreWrite → Prop
  | insert note => note.Fits
  | update _ _ patch _ => TextsFit patch.text?
  | delete .. => True

/-- A note that `patchFirst` leaves was there or is the image of one that was. -/
theorem mem_patchFirst {p : Note → Bool} {f : Note → Note} {notes : List Note} {n : Note}
    (hn : n ∈ (Store.patchFirst p f notes).2) : n ∈ notes ∨ ∃ m ∈ notes, n = f m := by
  induction notes with
  | nil => cases hn
  | cons m ms ih =>
    cases hp : p m with
    | true =>
      simp only [Store.patchFirst, hp, if_true, List.mem_cons] at hn
      rcases hn with rfl | hn
      · exact .inr ⟨m, .head _, rfl⟩
      · exact .inl (.tail _ hn)
    | false =>
      simp only [Store.patchFirst, hp, Bool.false_eq_true, if_false, List.mem_cons] at hn
      rcases hn with rfl | hn
      · exact .inl (.head _)
      · rcases ih hn with hold | ⟨k, hk, rfl⟩
        · exact .inl (.tail _ hold)
        · exact .inr ⟨k, .tail _ hk, rfl⟩

/-- `StoreWrite.apply` of a write that `Fits` keeps `Note.Fits` of all notes. -/
theorem apply_fits {w : StoreWrite} (hw : w.Fits) (hs : ∀ n ∈ s.notes, n.Fits) :
    ∀ n ∈ (w.apply s).notes, n.Fits := by
  intro n hn
  cases w with
  | insert note =>
    rw [apply_insert] at hn
    split at hn
    · exact hs n hn
    · rcases List.mem_append.1 hn with hold | hnew
      · exact hs n hold
      · exact List.mem_singleton.1 hnew ▸ hw
  | update owner id patch now =>
    rcases mem_patchFirst hn with hold | ⟨m, hm, rfl⟩
    · exact hs n hold
    · exact Patch.apply_fits hw (hs m hm) now
  | delete owner id => exact hs n (List.mem_filter.1 hn).1

end StoreWrite

/-! ## Notes that stay -/

/-- No note of `s'` has taken the place of one of `s`. The only new note there may be stands behind
the others, with an identifier that was free. -/
def Store.KeepsBirths (s s' : Store) : Prop :=
  (s'.notes.map Note.birth).Sublist (s.notes.map Note.birth)
  ∨ ∃ note : Note, (∀ n ∈ s.notes, n.id ≠ note.id)
    ∧ s'.notes.map Note.birth = s.notes.map Note.birth ++ [note.birth]

/-- The notes of `s` that are still there in `s'` have the births they had. -/
structure Store.Keeps (s s' : Store) : Prop where
  births : s.KeepsBirths s'
  /-- Where an identifier stands for one note, it has the same owner and time of creation. -/
  same : s.DistinctIds → ∀ m ∈ s.notes, ∀ n ∈ s'.notes, n.id = m.id →
    n.owner = m.owner ∧ n.createdAt = m.createdAt

/-- `KeepsBirths` implies `Keeps`. -/
theorem Store.KeepsBirths.keeps {s' : Store} (births : s.KeepsBirths s') : s.Keeps s' := by
  refine ⟨births, fun hs m hm n hn hid => ?_⟩
  have hbirth : n.birth ∈ s'.notes.map Note.birth := List.mem_map_of_mem hn
  have hold : n.birth ∈ s.notes.map Note.birth := by
    rcases births with hsub | ⟨note, hnew, hbirths⟩
    · exact hsub.subset hbirth
    · rw [hbirths] at hbirth
      refine (List.mem_append.1 hbirth).resolve_right fun hnote => hnew m hm ?_
      exact hid.symm.trans (congrArg Prod.fst (List.mem_singleton.1 hnote))
  obtain ⟨k, hk, hkn⟩ := List.mem_map.1 hold
  cases hs.eq_of_id hk hm ((congrArg Prod.fst hkn).trans hid)
  exact ⟨(congrArg (·.2.1) hkn).symm, (congrArg (·.2.2) hkn).symm⟩

theorem Store.Keeps.refl (s : Store) : s.Keeps s := KeepsBirths.keeps (.inl (.refl _))

/-- `StoreWrite.apply` satisfies `Keeps`. -/
theorem StoreWrite.apply_keeps (w : StoreWrite) (s : Store) : s.Keeps (w.apply s) := by
  cases w with
  | insert note =>
    rw [apply_insert]
    split
    · exact .refl s
    · next hfree =>
      refine Store.KeepsBirths.keeps (.inr ⟨note, fun n hn hid => hfree ?_, List.map_append⟩)
      exact List.any_eq_true.2 ⟨n, hn, beq_iff_eq.2 hid⟩
  | update owner id patch now =>
    exact Store.KeepsBirths.keeps (.inl (by rw [births_update]))
  | delete owner id => exact Store.KeepsBirths.keeps (.inl (List.filter_sublist.map _))

end NotePager

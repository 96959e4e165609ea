import NotePager.Proofs.Store.Alike
import NotePager.Proofs.Store.Writes

/-!
# Work that is done as a whole or not at all

Work that writes may still halt: a check fails, a call meets a fault, the caller gives up.
`Access.AllOrNothing` describes work that then leaves the notes as they were, by what it has done to
them otherwise. Whatever work does before it writes must not change the store, which holds of all
work that is `Alike` on both sides (`AllOrNothing.of_alike`).
-/

namespace NotePager.Access

variable {ε ε' α β : Type} {s s' s₀ : Store}

/-- Begun on a connection to the store `s`, the work either comes to a value that goes with the
store it leaves, or it halts and leaves the store `s₀`. -/
def AllOrNothing (s₀ : Store) (work : Access ε α) (s : Store) (done : α → Store → Prop) : Prop :=
  ∀ c : Connection, c.store = s →
    (∃ a c', work c = (.ok a, c') ∧ done a c'.store)
      ∨ ∃ halt c', work c = (.error halt, c') ∧ c'.store = s₀

namespace AllOrNothing

variable {work : Access ε α} {did : α → Store → Prop} {done : β → Store → Prop}

/-! ## Putting work together -/

theorem pure {a : α} (h : did a s) : AllOrNothing s₀ (pure a : Access ε α) s did := by
  rintro c rfl
  exact .inl ⟨a, c, rfl, h⟩

theorem halt (halt : Halt ε) : AllOrNothing s (throw halt : Access ε α) s did :=
  fun c hc => .inr ⟨halt, c, rfl, hc⟩

/-- `AllOrNothing` is monotone in what is done. -/
theorem imp {did' : α → Store → Prop} (h : AllOrNothing s₀ work s did)
    (hdid : ∀ a s', did a s' → did' a s') : AllOrNothing s₀ work s did' := by
  intro c hc
  rcases h c hc with ⟨a, c', hwork, ha⟩ | hhalt
  · exact .inl ⟨a, c', hwork, hdid a _ ha⟩
  · exact .inr hhalt

/-- `AllOrNothing` composes over `>>=`: what follows starts at the store that is left, and goes back
to `s₀` when it halts. -/
theorem bind {f : α → Access ε β} (h : AllOrNothing s₀ work s did)
    (hf : ∀ a s', did a s' → AllOrNothing s₀ (f a) s' done) :
    AllOrNothing s₀ (work >>= f) s done := by
  intro c hc
  rcases h c hc with ⟨a, c₁, hwork, hdid⟩ | ⟨halt, c₁, hwork, hstore⟩
  · rw [bind_apply_ok hwork]
    exact hf a _ hdid c₁ rfl
  · exact .inr ⟨halt, c₁, bind_apply_error hwork, hstore⟩

/-- Work that is alike to itself leaves the store unchanged. -/
theorem of_alike (h : Alike s s work work) : AllOrNothing s work s fun _ s' => s' = s := by
  rintro c rfl
  obtain ⟨outcome, c', _, hwork, -, hc'⟩ := h (c.alike_to c.store c.store)
  cases outcome with
  | ok a => exact .inl ⟨a, c', hwork, hc'.left⟩
  | error halt => exact .inr ⟨halt, c', hwork, hc'.left⟩

theorem mapError (f : ε → ε') (h : AllOrNothing s₀ work s did) :
    AllOrNothing s₀ (work.mapError f) s did := by
  intro c hc
  rcases h c hc with ⟨a, c₁, hwork, hdid⟩ | ⟨halt, c₁, hwork, hstore⟩
  · exact .inl ⟨a, c₁, by rw [Access.mapError, hwork], hdid⟩
  · rcases halt with e | w | _ <;>
      exact .inr ⟨_, c₁, by rw [Access.mapError, hwork], hstore⟩

/-- `AllOrNothing` is kept by `Access.settle`, whose wait ends without a write when the caller gives
up. -/
theorem settle (h : AllOrNothing s₀ work s did) : AllOrNothing s₀ work.settle s did := by
  intro c hc
  rcases h c hc with ⟨a, c₁, hwork, hdid⟩ | ⟨halt, c₁, hwork, hstore⟩
  · exact .inl ⟨a, c₁, by rw [Access.settle, hwork], hdid⟩
  · refine .inr ?_
    rcases halt with e | (_ | e) | _
    · exact ⟨_, c₁, by rw [Access.settle, hwork], hstore⟩
    · exact ⟨_, c₁, by rw [Access.settle, hwork], hstore⟩
    · by_cases hcancelled : c₁.cancelled = true
      · exact ⟨_, c₁, by rw [Access.settle, hwork]; exact if_pos hcancelled, hstore⟩
      · exact ⟨_, c₁, by rw [Access.settle, hwork]; exact if_neg hcancelled, hstore⟩
    · exact ⟨_, c₁, by rw [Access.settle, hwork], hstore⟩

/-! ## Calls of the store -/

/-- `AllOrNothing` is kept by `Access.perform`, whose fault comes before the answer. -/
theorem perform {answer : Access StoreError α} (call : StoreCall)
    (h : AllOrNothing s answer s did) : AllOrNothing s (Access.perform call answer) s did := by
  intro c hc
  let called : Connection := { c with calls := call :: c.calls }
  simp only [Access.perform, get_bind_apply, set_bind_apply]
  cases c.nextFault call.operation with
  | none => exact h called hc
  | some fault =>
    cases fault with
    | fail failure message => exact halt _ called hc
    | cancelBefore => exact h { called with cancelled := true } hc
    | cancelAfter =>
      -- The call has been answered by the time that the caller gives up.
      let giveUp (run : Except (Halt StoreError) α × Connection) :=
        (run.1, { run.2 with cancelled := true })
      rcases h called hc with ⟨a, c', hanswer, hdid⟩ | ⟨halt, c', hanswer, hstore⟩
      · exact .inl ⟨a, { c' with cancelled := true }, congrArg giveUp hanswer, hdid⟩
      · exact .inr ⟨halt, { c' with cancelled := true }, congrArg giveUp hanswer, hstore⟩
    | hang => exact halt _ called hc
    | crash => exact halt _ called hc

/-- `Access.insert` appends the note if its identifier is new, and halts otherwise. -/
theorem insert (note : Note) : AllOrNothing s (Access.insert note) s fun n s' =>
    n = note ∧ (∀ m ∈ s.notes, m.id ≠ note.id) ∧ s'.notes = s.notes ++ [note] := by
  refine perform _ fun c hc => ?_
  subst hc
  by_cases hnew : ∀ m ∈ c.store.notes, m.id ≠ note.id
  · refine .inl ⟨note, { c with store := ⟨c.store.notes ++ [note]⟩ }, ?_, rfl, hnew, rfl⟩
    rw [get_bind_apply, Store.insert_of_new hnew]
    rfl
  · push Not at hnew
    refine .inr ⟨.failed (.queryFailed .insert ("duplicate id " ++ note.id.toHex)), c, ?_, rfl⟩
    rw [get_bind_apply, Store.insert_of_taken hnew]
    rfl

section
variable (owner : Owner) (id : NoteId)

/-- `Access.update` leaves what `Store.update` leaves. -/
theorem updated (patch : Patch) (now : Instant) :
    AllOrNothing s (Access.update owner id patch now) s fun found s' =>
      (found, s') = s.update owner id patch now := by
  refine perform _ fun c hc => ?_
  subst hc
  exact .inl ⟨_, { c with store := (c.store.update owner id patch now).2 }, rfl, rfl⟩

/-- `Access.delete` leaves what `Store.delete` leaves. -/
theorem deleted : AllOrNothing s (Access.delete owner id) s fun found s' =>
    (found, s') = s.delete owner id := by
  refine perform _ fun c hc => ?_
  subst hc
  exact .inl ⟨_, { c with store := (c.store.delete owner id).2 }, rfl, rfl⟩

variable (hs : s.DistinctIds)
include hs

/-- `Access.update` patches the owner's note with the identifier in its place, if there is one. -/
theorem update (patch : Patch) (now : Instant) :
    AllOrNothing s (Access.update owner id patch now) s fun found s' =>
      found = none ∧ s' = s
      ∨ ∃ front n back, s.notes = front ++ n :: back ∧ n.id = id ∧ n.owner = owner
        ∧ found = some (patch.apply n now) ∧ s'.notes = front ++ patch.apply n now :: back := by
  refine (updated owner id patch now).imp fun found s' hupdate => ?_
  rcases s.absent_or_cut owner id with habsent | ⟨front, n, back, hcut, hid, howner⟩
  · rw [Store.update_of_absent habsent] at hupdate
    cases hupdate
    exact .inl ⟨rfl, rfl⟩
  · rw [Store.update_of_cut hs hcut hid howner] at hupdate
    cases hupdate
    exact .inr ⟨front, n, back, hcut, hid, howner, rfl, rfl⟩

/-- `Access.delete` takes out the owner's note with the identifier, if there is one. -/
theorem delete : AllOrNothing s (Access.delete owner id) s fun found s' =>
    found = false ∧ s' = s
    ∨ ∃ front n back, s.notes = front ++ n :: back ∧ n.id = id ∧ n.owner = owner
      ∧ found = true ∧ s'.notes = front ++ back := by
  refine (deleted owner id).imp fun found s' hdelete => ?_
  rcases s.absent_or_cut owner id with habsent | ⟨front, n, back, hcut, hid, howner⟩
  · rw [Store.delete_of_absent habsent] at hdelete
    cases hdelete
    exact .inl ⟨rfl, rfl⟩
  · rw [Store.delete_of_cut hs hcut hid howner] at hdelete
    cases hdelete
    exact .inr ⟨front, n, back, hcut, hid, howner, rfl, rfl⟩

end

end AllOrNothing

end NotePager.Access

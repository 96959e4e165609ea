import NotePager.Store.Access

/-!
# Work on a quiet connection

A connection is quiet when no call meets a fault and the caller has not given up. Work that is begun
on a quiet connection to a store comes to an end: `Access.Ends` relates it to its outcome and to the
store that it leaves, on a connection that is quiet again. There is one lemma for each way to put
work together and one for each call of the store, which gives the outcome by the store alone.
-/

namespace NotePager

/-- No call meets a fault, and the caller has not given up. -/
structure Connection.IsQuiet (c : Connection) : Prop where
  cancelled : c.cancelled = false
  faults : c.faults = []

namespace Access

variable {ε ε' α β : Type} {s s' s'' : Store}

/-- `>>=` after work that succeeds. -/
theorem bind_apply_ok {work : Access ε α} {f : α → Access ε β} {a : α} {c c' : Connection}
    (h : work c = (.ok a, c')) : (work >>= f) c = f a c' := by
  simp only [bind, ExceptT.bind, ExceptT.mk, StateT.bind, h, ExceptT.bindCont]

/-- `>>=` after work that halts. -/
theorem bind_apply_error {work : Access ε α} {f : α → Access ε β} {halt : Halt ε}
    {c c' : Connection} (h : work c = (.error halt, c')) :
    (work >>= f) c = (.error halt, c') := by
  simp only [bind, ExceptT.bind, ExceptT.mk, StateT.bind, h, ExceptT.bindCont]
  rfl

/-- `>>=` after `get`. -/
theorem get_bind_apply (f : Connection → Access ε α) (c : Connection) :
    (get >>= f) c = f c c := rfl

/-- `>>=` after `set`. -/
theorem set_bind_apply (f : PUnit → Access ε α) (c c' : Connection) :
    (set c' >>= f) c = f ⟨⟩ c' := rfl

section
variable {work : Access ε α} {c : Connection}

/-- `mapError` keeps success. -/
theorem mapError_eq_ok {f : ε → ε'} {a : α} :
    (work.mapError f c).1 = .ok a ↔ (work c).1 = .ok a := by
  rcases hwork : work c with ⟨(e | w | _) | a, c'⟩ <;> simp [Access.mapError, hwork]

/-- `mapError` leaves the same connection. -/
@[simp] theorem mapError_snd (f : ε → ε') : (work.mapError f c).2 = (work c).2 := by
  rcases hwork : work c with ⟨(e | w | _) | a, c'⟩ <;> simp [Access.mapError, hwork]

end

/-- What work comes to on a fresh connection to a store, and the store that it leaves. -/
def on (work : Access ε α) (s : Store) : Except (Halt ε) α × Store :=
  ((work { store := s }).1, (work { store := s }).2.store)

/-- On a quiet connection to the store `s` the work ends with this outcome, and it leaves a quiet
connection to the store `s'`. -/
def Ends (work : Access ε α) (s : Store) (outcome : Except ε α) (s' : Store) : Prop :=
  ∀ c : Connection, c.IsQuiet → c.store = s →
    ∃ c' : Connection, c'.IsQuiet ∧ c'.store = s' ∧ work c = (outcome.mapError .failed, c')

namespace Ends

/-! ## Putting work together -/

/-- `Access.on` is the outcome that the work `Ends` with. -/
theorem on_eq {work : Access ε α} {r : Except ε α} (h : Ends work s r s') :
    work.on s = (r.mapError .failed, s') := by
  obtain ⟨c', -, hs, he⟩ := h { store := s } ⟨rfl, rfl⟩ rfl
  rw [on, he, hs]

theorem pure (a : α) : Ends (pure a : Access ε α) s (.ok a) s :=
  fun c hc hs => ⟨c, hc, hs, rfl⟩

theorem fail (e : ε) : Ends (Access.fail e : Access ε α) s (.error e) s :=
  fun c hc hs => ⟨c, hc, hs, rfl⟩

/-- `Ends` of `>>=` after work that succeeds. -/
theorem bind {work : Access ε α} {f : α → Access ε β} {a : α} {r : Except ε β}
    (h : Ends work s (.ok a) s') (hf : Ends (f a) s' r s'') : Ends (work >>= f) s r s'' := by
  intro c hc hs
  obtain ⟨c₁, hc₁, hs₁, he₁⟩ := h c hc hs
  obtain ⟨c₂, hc₂, hs₂, he₂⟩ := hf c₁ hc₁ hs₁
  exact ⟨c₂, hc₂, hs₂, (bind_apply_ok he₁).trans he₂⟩

/-- `Ends` of `>>=` after work that fails. -/
theorem bind_error {work : Access ε α} {f : α → Access ε β} {e : ε}
    (h : Ends work s (.error e) s') : Ends (work >>= f) s (.error e) s' := by
  intro c hc hs
  obtain ⟨c₁, hc₁, hs₁, he₁⟩ := h c hc hs
  exact ⟨c₁, hc₁, hs₁, bind_apply_error he₁⟩

/-- `Ends` of `Access.both` when both succeed. -/
theorem both {first : Access ε α} {second : Access ε β} {a : α} {b : β}
    (h₁ : Ends first s (.ok a) s') (h₂ : Ends second s' (.ok b) s'') :
    Ends (first.both second) s (.ok (a, b)) s'' := by
  intro c hc hs
  obtain ⟨c₁, hc₁, hs₁, he₁⟩ := h₁ c hc hs
  obtain ⟨c₂, hc₂, hs₂, he₂⟩ := h₂ c₁ hc₁ hs₁
  have hfirst : first c = (.ok a, c₁) := he₁
  have hsecond : second c₁ = (.ok b, c₂) := he₂
  exact ⟨c₂, hc₂, hs₂, by simp only [Access.both, hfirst, hsecond]; rfl⟩

/-- `Ends` of `Access.both` when the second fails. -/
theorem both_error {first : Access ε α} {second : Access ε β} {a : α} {e : ε}
    (h₁ : Ends first s (.ok a) s') (h₂ : Ends second s' (.error e) s'') :
    Ends (first.both second) s (.error e) s'' := by
  intro c hc hs
  obtain ⟨c₁, hc₁, hs₁, he₁⟩ := h₁ c hc hs
  obtain ⟨c₂, hc₂, hs₂, he₂⟩ := h₂ c₁ hc₁ hs₁
  have hfirst : first c = (.ok a, c₁) := he₁
  have hsecond : second c₁ = (.error (.failed e), c₂) := he₂
  exact ⟨c₂, hc₂, hs₂, by simp only [Access.both, hfirst, hsecond]; rfl⟩

theorem mapError {work : Access ε α} {r : Except ε α} (f : ε → ε') (h : Ends work s r s') :
    Ends (work.mapError f) s (r.mapError f) s' := by
  intro c hc hs
  obtain ⟨c₁, hc₁, hs₁, he₁⟩ := h c hc hs
  refine ⟨c₁, hc₁, hs₁, ?_⟩
  cases r with
  | error e =>
    have hwork : work c = (.error (.failed e), c₁) := he₁
    simp only [Access.mapError, hwork]
    rfl
  | ok a =>
    have hwork : work c = (.ok a, c₁) := he₁
    simp only [Access.mapError, hwork]
    rfl

/-! ## Calls of the store -/

/-- `Access.perform` ends as its answer does. -/
theorem perform {answer : Access StoreError α} {r : Except StoreError α} (call : StoreCall)
    (h : Ends answer s r s') : Ends (Access.perform call answer) s r s' := by
  intro c hc hs
  obtain ⟨c₁, hc₁, hs₁, he₁⟩ := h { c with calls := call :: c.calls } ⟨hc.1, hc.2⟩ hs
  refine ⟨c₁, hc₁, hs₁, .trans ?_ he₁⟩
  have hfault : c.nextFault call.operation = none := by
    simp [Connection.nextFault, hc.faults]
  rw [Access.perform, get_bind_apply, set_bind_apply, hfault]

/-- `Access.answerRead` ends with what it reads. -/
theorem answerRead {read : Store → Except FilterError α} {a : α} (operation : StoreOperation)
    (h : read s = .ok a) : Ends (Access.answerRead operation read) s (.ok a) s := by
  intro c hc hs
  subst hs
  refine ⟨c, hc, rfl, ?_⟩
  rw [Access.answerRead, get_bind_apply, h, hc.cancelled]
  rfl

section
variable [PatternEngine]

/-- `Access.find` ends with the window of `Store.select`, if the filter compiles. -/
theorem find {q : Query} {p : Predicate} (h : q.filter.compile = .ok p) :
    Ends (Access.find q) s (.ok (Store.window q.skip q.limit (s.select q.sort p))) s :=
  .perform _ (.answerRead .find (by simp [Store.find, h, Except.map]))

/-- `Access.count` ends with the number of notes that pass, if the filter compiles. -/
theorem count {f : Filter} {p : Predicate} (h : f.compile = .ok p) :
    Ends (Access.count f) s (.ok (s.notes.countP p)) s :=
  .perform _ (.answerRead .count (by simp [Store.count, h, Except.map]))

/-- `Access.findOne` ends with the first note that passes, if the filter compiles. -/
theorem findOne {f : Filter} {p : Predicate} (h : f.compile = .ok p) :
    Ends (Access.findOne f) s (.ok (s.notes.find? p)) s := by
  -- Without keys all notes are equal, so they stay in the order of the store.
  have hsort : s.select [] p = s.notes.filter p :=
    List.mergeSort_of_pairwise (List.pairwise_of_forall fun _ _ => rfl)
  have hhead : (Store.window 0 (some 1) (s.select [] p)).head? = s.notes.find? p := by
    simp [hsort, Store.window, List.head?_take]
  rw [← hhead]
  exact .bind (.find (q := { filter := f, limit := some 1 }) h) (.pure _)

end

/-- `Access.insert` ends as `Store.insert` does: a taken identifier is `queryFailed`. -/
theorem insert (note : Note) :
    Ends (Access.insert note) s
      (match s.insert note with
        | none => .error (.queryFailed .insert ("duplicate id " ++ note.id.toHex))
        | some _ => .ok note)
      ((s.insert note).getD s) := by
  refine .perform _ fun c hc hs => ?_
  subst hs
  cases hi : c.store.insert note with
  | none => exact ⟨c, hc, rfl, by rw [get_bind_apply, hi]; rfl⟩
  | some store =>
    exact ⟨{ c with store := store }, ⟨hc.1, hc.2⟩, rfl,
      by rw [get_bind_apply, hi]; rfl⟩

/-- `Access.update` ends as `Store.update` does. -/
theorem update (owner : Owner) (id : NoteId) (patch : Patch) (now : Instant) :
    Ends (Access.update owner id patch now) s (.ok (s.update owner id patch now).1)
      (s.update owner id patch now).2 := by
  refine .perform _ fun c hc hs => ?_
  subst hs
  exact ⟨{ c with store := (c.store.update owner id patch now).2 }, ⟨hc.1, hc.2⟩, rfl, rfl⟩

/-- `Access.delete` ends as `Store.delete` does. -/
theorem delete (owner : Owner) (id : NoteId) :
    Ends (Access.delete owner id) s (.ok (s.delete owner id).1) (s.delete owner id).2 := by
  refine .perform _ fun c hc hs => ?_
  subst hs
  exact ⟨{ c with store := (c.store.delete owner id).2 }, ⟨hc.1, hc.2⟩, rfl, rfl⟩

end Ends

end Access

end NotePager

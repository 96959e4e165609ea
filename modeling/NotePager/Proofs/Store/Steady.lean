import NotePager.Proofs.Store.Quiet

/-!
# Work that answers in spite of faults

Calls may meet faults, and the caller may give up on the way. What work that only reads comes to,
if it comes to anything, does not depend on that: it is what the work comes to on a quiet connection
to the same store (`Access.Steady`). There is one lemma for each way to put work together and one
for each reading call, so a property of the answers of a quiet connection holds of all answers.
-/

namespace NotePager.Access

variable {ε ε' α β : Type}

/-- `>>=` succeeds only if both parts do. -/
theorem bind_apply_eq_ok {work : Access ε α} {f : α → Access ε β} {b : β} {c c'' : Connection}
    (h : (work >>= f) c = (.ok b, c'')) :
    ∃ a c', work c = (.ok a, c') ∧ f a c' = (.ok b, c'') := by
  cases hwork : work c with
  | mk outcome c' =>
    cases outcome with
    | ok a => exact ⟨a, c', rfl, by rwa [bind_apply_ok hwork] at h⟩
    | error halt => cases (bind_apply_error hwork).symm.trans h

/-- `Access.both` succeeds only if both parts do. -/
theorem both_apply_eq_ok {first : Access ε α} {second : Access ε β} {a : α} {b : β}
    {c c'' : Connection} (h : first.both second c = (.ok (a, b), c'')) :
    ∃ c', first c = (.ok a, c') ∧ second c' = (.ok b, c'') := by
  rw [both] at h
  split at h
  · rename_i a' c' hfirst
    split at h
    · rename_i b' c₂ hsecond
      cases h
      exact ⟨c', hfirst, hsecond⟩
    · cases h
  · split at h <;> cases h
  · cases h

/-- `mapError` succeeds only if the work does. -/
theorem mapError_apply_eq_ok {work : Access ε α} {f : ε → ε'} {a : α} {c c' : Connection}
    (h : work.mapError f c = (.ok a, c')) : work c = (.ok a, c') :=
  Prod.ext (mapError_eq_ok.1 (congrArg Prod.fst h))
    ((mapError_snd f).symm.trans (congrArg Prod.snd h))

/-- Whatever the work comes to on a connection, it leaves the store as it is, and comes to the same
on a quiet connection to this store. -/
def Steady (work : Access ε α) : Prop :=
  ∀ ⦃c a c'⦄, work c = (.ok a, c') → c'.store = c.store ∧ Ends work c.store (.ok a) c.store

namespace Steady

/-! ## Putting work together -/

theorem pure (a : α) : Steady (pure a : Access ε α) := by
  intro c a' c' h
  cases h
  exact ⟨rfl, .pure a⟩

/-- Work that halts is vacuously `Steady`. -/
theorem halt (halt : Halt ε) : Steady (throw halt : Access ε α) := by
  intro c a c' h
  cases h

theorem bind {work : Access ε α} {f : α → Access ε β} (h : Steady work) (hf : ∀ a, Steady (f a)) :
    Steady (work >>= f) := by
  intro c b c'' hb
  obtain ⟨a, c', hwork, hrest⟩ := bind_apply_eq_ok hb
  obtain ⟨hstore, hends⟩ := h hwork
  obtain ⟨hstore', hends'⟩ := hf a hrest
  rw [hstore] at hstore' hends'
  exact ⟨hstore', hends.bind hends'⟩

theorem both {first : Access ε α} {second : Access ε β} (h₁ : Steady first) (h₂ : Steady second) :
    Steady (first.both second) := by
  rintro c ⟨a, b⟩ c'' hab
  obtain ⟨c', hfirst, hsecond⟩ := both_apply_eq_ok hab
  obtain ⟨hstore, hends⟩ := h₁ hfirst
  obtain ⟨hstore', hends'⟩ := h₂ hsecond
  rw [hstore] at hstore' hends'
  exact ⟨hstore', hends.both hends'⟩

/-! ## Calls of the store -/

/-- `Access.perform` is `Steady` when its answer is: a fault that lets the call succeed does not
touch the answer. -/
theorem perform {answer : Access StoreError α} (call : StoreCall) (h : Steady answer) :
    Steady (Access.perform call answer) := by
  intro c a c' ha
  let called : Connection := { c with calls := call :: c.calls }
  -- The answer is to the same store, whether or not the caller has given up by then.
  have hanswer (c₁ c₂ : Connection) (hstore : c₁.store = c.store)
      (hrun : answer c₁ = (.ok a, c₂)) :
      c₂.store = c.store ∧ Ends (Access.perform call answer) c.store (.ok a) c.store := by
    obtain ⟨hleft, hends⟩ := h hrun
    rw [hstore] at hleft hends
    exact ⟨hleft, hends.perform call⟩
  simp only [Access.perform, get_bind_apply, set_bind_apply] at ha
  cases hfault : c.nextFault call.operation with
  | none =>
    simp only [hfault] at ha
    exact hanswer called c' rfl ha
  | some fault =>
    simp only [hfault] at ha
    cases fault with
    | cancelBefore => exact hanswer { called with cancelled := true } c' rfl ha
    | cancelAfter =>
      cases hrun : answer called with
      | mk outcome c₂ =>
        simp only [called] at hrun
        simp only [hrun] at ha
        cases ha
        exact hanswer called c₂ rfl hrun
    | fail | hang | crash => cases ha

/-- `Access.answerRead` is `Steady`. -/
theorem answerRead {read : Store → Except FilterError α} (operation : StoreOperation) :
    Steady (Access.answerRead operation read) := by
  intro c a c' ha
  rw [Access.answerRead, get_bind_apply] at ha
  cases hread : read c.store with
  | error e =>
    simp only [hread] at ha
    cases ha
  | ok a' =>
    simp only [hread] at ha
    split at ha
    · cases ha
    · cases ha
      exact ⟨rfl, .answerRead operation hread⟩

variable [PatternEngine]

theorem find (q : Query) : Steady (Access.find q) := .perform _ (.answerRead _)

theorem count (f : Filter) : Steady (Access.count f) := .perform _ (.answerRead _)

theorem findOne (f : Filter) : Steady (Access.findOne f) := .bind (.find _) fun _ => .pure _

end Steady

end NotePager.Access

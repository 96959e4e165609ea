import NotePager.Proofs.Store.Quiet

/-!
# Work that comes to the same

Two pieces of work may ask two stores, or ask in other words, and come to the same all the same.
`Access.Alike` compares a run of the one on a connection to one store with a run of the other on a
connection to the other store, when the two connections meet the same faults: both runs end with the
same outcome, whether or not the caller gives up on the way, and leave the stores as they were.
Connections remember what they have been asked (`Connection.calls`), but faults go by operations
alone (`Connection.Alike.nextFault`), so the words may differ. Work is alike when its calls are, and
reading calls are alike when the stores have the same answer to them.
-/

namespace NotePager

/-! ## Connections -/

/-- The same connection, to another store. -/
def Connection.to (c : Connection) (s : Store) : Connection := { c with store := s }

/-- Connections to the two stores that meet the same faults, since calls of the same operations have
been made. -/
structure Connection.Alike (s t : Store) (c d : Connection) : Prop where
  left : c.store = s
  right : d.store = t
  cancelled : c.cancelled = d.cancelled
  faults : c.faults = d.faults
  operations : c.calls.map StoreCall.operation = d.calls.map StoreCall.operation

/-- `Connection.Alike` relates a connection to itself on two stores. -/
theorem Connection.alike_to (c : Connection) (s t : Store) :
    Connection.Alike s t (c.to s) (c.to t) :=
  ⟨rfl, rfl, rfl, rfl, rfl⟩

namespace Connection.Alike

variable {s t : Store} {c d : Connection}

/-- Alike connections have the same `nextFault`. -/
theorem nextFault (h : Connection.Alike s t c d) (operation : StoreOperation) :
    c.nextFault operation = d.nextFault operation := by
  have hcount (e : Connection) : e.callCount operation
      = (e.calls.map StoreCall.operation).countP (· == operation) := by
    rw [List.countP_map]
    rfl
  rw [Connection.nextFault, Connection.nextFault, h.faults, hcount, hcount, h.operations]

/-- `Connection.Alike` is kept when both have been asked once more. -/
theorem called (h : Connection.Alike s t c d) {call call' : StoreCall}
    (hcall : call.operation = call'.operation) :
    Connection.Alike s t { c with calls := call :: c.calls } { d with calls := call' :: d.calls } :=
  ⟨h.left, h.right, h.cancelled, h.faults, by rw [List.map_cons, List.map_cons, hcall, h.operations]⟩

/-- `Connection.Alike` is kept when both callers give up. -/
theorem cancel (h : Connection.Alike s t c d) :
    Connection.Alike s t { c with cancelled := true } { d with cancelled := true } :=
  ⟨h.left, h.right, rfl, h.faults, h.operations⟩

end Connection.Alike

namespace Access

variable {ε ε' α β : Type} {s t : Store}

/-- On connections to the two stores that meet the same faults, the two pieces of work end with the
same outcome, and with such connections. -/
def Alike (s t : Store) (work work' : Access ε α) : Prop :=
  ∀ ⦃c d : Connection⦄, Connection.Alike s t c d →
    ∃ (outcome : Except (Halt ε) α) (c' d' : Connection),
      work c = (outcome, c') ∧ work' d = (outcome, d') ∧ Connection.Alike s t c' d'

namespace Alike

/-! ## Putting work together -/

theorem pure (a : α) : Alike s t (pure a : Access ε α) (pure a) :=
  fun c d h => ⟨.ok a, c, d, rfl, rfl, h⟩

theorem halt (halt : Halt ε) : Alike s t (throw halt : Access ε α) (throw halt) :=
  fun c d h => ⟨.error halt, c, d, rfl, rfl, h⟩

/-- `Alike` is kept by `>>=`, if what follows is alike for every value. -/
theorem bind {work work' : Access ε α} {f f' : α → Access ε β} (h : Alike s t work work')
    (hf : ∀ a, Alike s t (f a) (f' a)) : Alike s t (work >>= f) (work' >>= f') := by
  intro c d hcd
  obtain ⟨outcome, c₁, d₁, hc₁, hd₁, h₁⟩ := h hcd
  cases outcome with
  | error halt => exact ⟨_, c₁, d₁, bind_apply_error hc₁, bind_apply_error hd₁, h₁⟩
  | ok a =>
    obtain ⟨outcome, c₂, d₂, hc₂, hd₂, h₂⟩ := hf a h₁
    exact ⟨outcome, c₂, d₂, (bind_apply_ok hc₁).trans hc₂, (bind_apply_ok hd₁).trans hd₂, h₂⟩

/-- `Alike` is kept by `Access.both`. -/
theorem both {first first' : Access ε α} {second second' : Access ε β}
    (h₁ : Alike s t first first') (h₂ : Alike s t second second') :
    Alike s t (first.both second) (first'.both second') := by
  intro c d hcd
  obtain ⟨outcome, c₁, d₁, hc₁, hd₁, hcd₁⟩ := h₁ hcd
  obtain ⟨outcome', c₂, d₂, hc₂, hd₂, hcd₂⟩ := h₂ hcd₁
  rcases outcome with (e | w | _) | a
  · exact ⟨_, c₁, d₁, by rw [Access.both, hc₁], by rw [Access.both, hd₁], hcd₁⟩
  · -- The first waits, so the second runs all the same.
    cases outcome' <;>
      exact ⟨_, c₂, d₂, by simp only [Access.both, hc₁, hc₂]; rfl,
        by simp only [Access.both, hd₁, hd₂], hcd₂⟩
  · exact ⟨_, c₁, d₁, by rw [Access.both, hc₁], by rw [Access.both, hd₁], hcd₁⟩
  · cases outcome' <;>
      exact ⟨_, c₂, d₂, by simp only [Access.both, hc₁, hc₂]; rfl,
        by simp only [Access.both, hd₁, hd₂], hcd₂⟩

theorem mapError {work work' : Access ε α} (f : ε → ε') (h : Alike s t work work') :
    Alike s t (work.mapError f) (work'.mapError f) := by
  intro c d hcd
  obtain ⟨outcome, c₁, d₁, hc₁, hd₁, hcd₁⟩ := h hcd
  rcases outcome with (e | w | _) | a <;>
    exact ⟨_, c₁, d₁, by rw [Access.mapError, hc₁], by rw [Access.mapError, hd₁], hcd₁⟩

theorem settle {work work' : Access ε α} (h : Alike s t work work') :
    Alike s t work.settle work'.settle := by
  intro c d hcd
  obtain ⟨outcome, c₁, d₁, hc₁, hd₁, hcd₁⟩ := h hcd
  rcases outcome with (e | (_ | e) | _) | a
  case error.waiting.some =>
    simp only [Access.settle, hc₁, hd₁, hcd₁.cancelled]
    split
    · exact ⟨_, c₁, d₁, rfl, rfl, hcd₁⟩
    · exact ⟨_, c₁, d₁, rfl, rfl, hcd₁⟩
  all_goals
    simp only [Access.settle, hc₁, hd₁]
    exact ⟨_, c₁, d₁, rfl, rfl, hcd₁⟩

/-- Alike work on the same connection to either store has the same outcome. -/
theorem fst_eq {work work' : Access ε α} (h : Alike s t work work') (c : Connection) :
    (work (c.to s)).1 = (work' (c.to t)).1 := by
  obtain ⟨outcome, c₁, d₁, hc₁, hd₁, -⟩ := h (c.alike_to s t)
  rw [hc₁, hd₁]

/-! ## Calls of the store -/

/-- `Access.perform` of calls with the same operation is `Alike` when their answers are. -/
theorem perform {answer answer' : Access StoreError α} {call call' : StoreCall}
    (hcall : call.operation = call'.operation) (h : Alike s t answer answer') :
    Alike s t (Access.perform call answer) (Access.perform call' answer') := by
  intro c d hcd
  have hcalled := hcd.called hcall
  simp only [Access.perform, get_bind_apply, set_bind_apply, ← hcall, ← hcd.nextFault]
  cases c.nextFault call.operation with
  | none => exact h hcalled
  | some fault =>
    cases fault with
    | fail failure message => exact Alike.halt _ hcalled
    | cancelBefore => exact h hcalled.cancel
    | cancelAfter =>
      -- The calls have been answered by the time that the callers give up.
      obtain ⟨outcome, c₁, d₁, hc₁, hd₁, h₁⟩ := h hcalled
      let giveUp (run : Except (Halt StoreError) α × Connection) :=
        (run.1, { run.2 with cancelled := true })
      exact ⟨outcome, _, _, congrArg giveUp hc₁, congrArg giveUp hd₁, h₁.cancel⟩
    | hang => exact Alike.halt _ hcalled
    | crash => exact Alike.halt _ hcalled

/-- `Access.answerRead` is `Alike` when the stores read the same. -/
theorem answerRead {read read' : Store → Except FilterError α} (operation : StoreOperation)
    (h : read s = read' t) :
    Alike s t (Access.answerRead operation read) (Access.answerRead operation read') := by
  intro c d hcd
  simp only [Access.answerRead, get_bind_apply, hcd.left, hcd.right, h, hcd.cancelled]
  cases read' t with
  | error e => exact Alike.halt _ hcd
  | ok a =>
    by_cases hd : d.cancelled = true
    · simp only [hd, if_true]
      exact Alike.halt _ hcd
    · simp only [hd]
      exact Alike.pure a hcd

variable [PatternEngine]

/-- `Access.find` is `Alike` when `Store.find` is the same. -/
theorem find {q q' : Query} (h : s.find q = t.find q') :
    Alike s t (Access.find q) (Access.find q') :=
  .perform rfl (.answerRead .find h)

/-- `Access.count` is `Alike` when `Store.count` is the same. -/
theorem count {f f' : Filter} (h : s.count f = t.count f') :
    Alike s t (Access.count f) (Access.count f') :=
  .perform rfl (.answerRead .count h)

/-- `Access.findOne` is `Alike` when `Store.find` of its filter is the same. -/
theorem findOne {f f' : Filter} (h : s.find { filter := f, limit := some 1 }
    = t.find { filter := f', limit := some 1 }) : Alike s t (Access.findOne f) (Access.findOne f') :=
  .bind (.find h) fun _ => .pure _

end Alike

end Access

end NotePager

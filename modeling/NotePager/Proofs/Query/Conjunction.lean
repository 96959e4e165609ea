import NotePager.Proofs.Query.Engine

/-!
# The meaning of conjunctions

A conjunction puts the parts of both filters side by side. Compiling it compiles both filters one
after the other (`Filter.compile_and_eq`), so it lets through the notes that both let through, and
the first error of either is its error. The way there is that every filter means the conjunction of
its parts (`Filter.compile_parts`) and that compiling parts side by side compiles them one after the
other (`compileParts_append`). Nothing in it depends on the engine that reads the patterns.
-/

namespace NotePager

section
variable [PatternEngine]

/-- `compileParts` of parts side by side compiles them one after the other. -/
theorem compileParts_append (fs gs : List Filter) :
    compileParts (fs ++ gs) = (do
      let ps ← compileParts fs
      let qs ← compileParts gs
      return ps ++ qs) := by
  induction fs with
  | nil =>
    rw [List.nil_append, compileParts]
    cases compileParts gs <;> rfl
  | cons f fs ih =>
    rw [List.cons_append, compileParts, compileParts, ih]
    cases f.compile with
    | error e => rfl
    | ok p =>
      cases compileParts fs with
      | error e => rfl
      | ok ps => cases compileParts gs <;> rfl

end

namespace Filter

section
variable [PatternEngine]

/-- `Filter.compile` is the conjunction of the compiled `Filter.parts`. -/
theorem compile_parts (f : Filter) :
    f.compile = (compileParts f.parts).map fun ps n => ps.all (· n) := by
  have single (g : Filter) : g.compile = (compileParts [g]).map fun ps n => ps.all (· n) := by
    rw [compileParts, compileParts]
    cases g.compile with
    | error e => rfl
    | ok p => exact congrArg Except.ok (funext fun n => (Bool.and_true (p n)).symm)
  cases f with
  | all fs => rw [compile]; rfl
  | any | condition | words => exact single _

/-- `Filter.and` compiles to the conjunction of both, and to the first error of either. -/
theorem compile_and_eq (f g : Filter) : (f.and g).compile = (do
    let p ← f.compile
    let q ← g.compile
    return fun n => p n && q n) := by
  rw [compile_parts (f.and g), compile_parts f, compile_parts g, parts_and, compileParts_append]
  cases compileParts f.parts with
  | error e => rfl
  | ok ps =>
    cases compileParts g.parts with
    | error e => rfl
    | ok qs => exact congrArg Except.ok (funext fun n => List.all_append)

/-- `compile_and_eq` for filters that compile. -/
theorem compile_and {f g : Filter} {p q : Predicate} (hf : f.compile = .ok p)
    (hg : g.compile = .ok q) : (f.and g).compile = .ok fun n => p n && q n := by
  rw [compile_and_eq, hf, hg]
  rfl

/-- With any engine, `Filter.and` of two filters that compile, of any parts at any depth, compiles,
and accepts the notes that both accept. It fails exactly when one of them does, with the error of
the first if the first fails. `Filter.and` is associative. -/
theorem and_conjoins :
    (∀ (f g : Filter) (p q : Predicate), f.compile = .ok p → g.compile = .ok q →
      ∃ r : Predicate, (f.and g).compile = .ok r ∧ ∀ n, r n = true ↔ p n = true ∧ q n = true)
    ∧ (∀ (f g : Filter) (e : FilterError), (f.and g).compile = .error e ↔
        f.compile = .error e ∨ (∃ p, f.compile = .ok p) ∧ g.compile = .error e)
    ∧ ∀ f g h : Filter, (f.and g).and h = f.and (g.and h) := by
  refine ⟨fun f g p q hf hg => ?_, fun f g e => ?_, fun f g h => ?_⟩
  · exact ⟨_, compile_and hf hg, fun n => Bool.and_eq_true_iff⟩
  · rw [compile_and_eq]
    cases f.compile with
    | error e' => simp [bind, Except.bind]
    | ok p => cases g.compile <;> simp [bind, Except.bind, pure, Except.pure]
  · exact congrArg all (List.append_assoc f.parts g.parts h.parts)

end

/-- `and_conjoins` with the plain engine: for a pattern with a bar next to words; for `any []`,
which no note meets; and for a pattern that the engine refuses and a value that is no pattern, in
either order and at different depths. -/
theorem and_conjoins_nested :
    (∃ r : Predicate, ((all [all [], like .title "milk|tea"]).and (words "green")).compile = .ok r
      ∧ ∀ n, r n = true ↔
        (Text.occurs "milk".toList n.title.toList = true
          ∨ Text.occurs "tea".toList n.title.toList = true) ∧ wordsPredicate "green" n = true)
    ∧ (∃ r : Predicate, ((all [all [], words "tea"]).and (any [])).compile = .ok r ∧ ∀ n, r n = false)
    ∧ ((all [any [like .title "("]]).and (condition ⟨.color, .like, .id ⟨0⟩⟩)).compile
      = .error (.badPattern "regex parse error")
    ∧ ((condition ⟨.color, .like, .id ⟨0⟩⟩).and (all [any [like .title "("]])).compile
      = .error (.patternExpected .color) := by
  obtain ⟨hok, herror, -⟩ := and_conjoins
  refine ⟨?_, ?_, (herror _ _ _).2 (.inl rfl), (herror _ _ _).2 (.inl rfl)⟩
  · have hbar : (all [all [], like .title "milk|tea"]).compile = .ok fun n =>
        [fun _ => true, textPredicate .title fun s =>
          ["milk".toList, "tea".toList].any (Text.occurs · s.toList)].all (· n) := by
      rw [compile, compileParts, compileParts, compile_like, readPattern,
        PatternEngine.read_plain "milk|tea" rfl]
      rfl
    obtain ⟨r, hr, hiff⟩ := hok _ (words "green") _ _ hbar (compile_words "green")
    refine ⟨r, hr, fun n => (hiff n).trans (and_congr_left' ?_)⟩
    simp [textPredicate, Note.value]
  · have htea : (all [all [], words "tea"]).compile
        = .ok fun n => [fun _ => true, wordsPredicate "tea"].all (· n) := by
      rw [compile, compileParts, compileParts, compile_words]
      rfl
    obtain ⟨r, hr, hiff⟩ := hok (all [all [], words "tea"]) (any []) _ _ htea rfl
    refine ⟨r, hr, fun n => ?_⟩
    rw [Bool.eq_false_iff, Ne, hiff]
    simp

end Filter

end NotePager

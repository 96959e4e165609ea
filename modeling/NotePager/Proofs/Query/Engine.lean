import Mathlib.Data.List.Basic
import NotePager.Proofs.Text.Search
import NotePager.Query.Plain
import NotePager.Query.Predicate

/-!
# Engines that read texts

What the service relies on an engine for. The patterns that it writes are made from texts: from a
run of letters by `Pattern.escape`, and from the terms of a text by `Pattern.anyWord`. An engine
`ReadsTexts` up to a length if it reads both as they are meant, a run as the texts that hold the run
(`Text.occurs`) and terms as the texts that hold one of them as a word of its own (`Text.hasTerm`).
Filters made from such patterns then have a meaning that does not depend on the engine
(`Filter.compile_like_of_readsTexts`, `Filter.compile_words_of_readsTexts`). The plain engine reads
texts of any length (`PatternEngine.plain_readsTexts`).
-/

namespace NotePager

/-- The predicate that the title or the body holds a word of the text. -/
def wordsPredicate (text : String) : Predicate :=
  let terms := Text.terms text.toList
  fun n => Text.hasTerm terms n.title.toList || Text.hasTerm terms n.body.toList

/-- The engine reads the patterns made from texts of at most `limit` characters as they are
meant. -/
structure PatternEngine.ReadsTexts (engine : PatternEngine) (limit : Nat) : Prop where
  run : ∀ run : List Char, run.length ≤ limit →
    engine.read (String.ofList (Pattern.escape run)) = .ok fun s => Text.occurs run s.toList
  words : ∀ text : List Char, text.length ≤ limit → Text.terms text ≠ [] →
    engine.read (Pattern.anyWord (Text.terms text))
      = .ok fun s => Text.hasTerm (Text.terms text) s.toList

/-! ## The plain engine -/

namespace Pattern

/-- Every operator is special. -/
theorem isSpecial_of_isOperator {c : Char} (h : isOperator c = true) : isSpecial c = true := by
  have hall : "\\.+*?()|[\x7b^$".toList.all isSpecial = true := by decide +kernel
  exact List.all_eq_true.1 hall c (List.contains_iff_mem.1 h)

/-- `literalOnto` takes a character that is no operator for itself. -/
theorem literalOnto_cons {c : Char} (hc : isOperator c = false) (read rest : List Char) :
    literalOnto read (c :: rest) = literalOnto (c :: read) rest := by
  have hne : c ≠ '\\' := by
    rintro rfl
    exact absurd hc (by decide)
  rw [literalOnto.eq_3 read c rest (fun _ _ h _ => hne h), if_neg (by simp [hc])]

/-- `literalOnto` reads back what `escape` writes, behind what is read already. -/
theorem literalOnto_escape (read run : List Char) :
    literalOnto read (escape run) = some (read.reverse ++ run) := by
  induction run generalizing read with
  | nil => exact congrArg some (List.append_nil _).symm
  | cons c run ih =>
    have hnext : literalOnto read (escape (c :: run)) = literalOnto (c :: read) (escape run) := by
      rw [escape, List.flatMap_cons]
      cases hc : isSpecial c with
      | true => exact if_pos hc
      | false =>
        have hplain : isOperator c = false :=
          Bool.eq_false_iff.2 fun ho => by simp [isSpecial_of_isOperator ho] at hc
        exact literalOnto_cons hplain _ _
    rw [hnext, ih, List.reverse_cons, List.append_assoc]
    rfl

/-- `literal?` reads back what `escape` writes. -/
theorem literal?_escape (run : List Char) : literal? (escape run) = some run := by
  simp [literal?, literalOnto_escape]

/-- `escape` writes a bar only for a bar. -/
theorem bar_notMem_escape {run : List Char} (h : '|' ∉ run) : '|' ∉ escape run := by
  intro hmem
  obtain ⟨c, hc, hbar⟩ := List.mem_flatMap.1 hmem
  have hne : '|' ≠ c := fun heq => h (heq ▸ hc)
  split at hbar <;> simp [hne] at hbar

/-- `alternatives?` reads back the runs that `escape` writes between bars, if no run has a bar. -/
theorem alternatives?_intercalate {runs : List (List Char)} (hne : runs ≠ [])
    (h : ∀ run ∈ runs, '|' ∉ run) :
    alternatives? (['|'].intercalate (runs.map escape)) = some runs := by
  have hsplit : (['|'].intercalate (runs.map escape)).splitOn '|' = runs.map escape := by
    refine List.splitOn_intercalate '|' (fun pattern hpattern => ?_) (by simpa using hne)
    obtain ⟨run, hrun, rfl⟩ := List.mem_map.1 hpattern
    exact bar_notMem_escape (h run hrun)
  have hread : literal? ∘ escape = fun run => pure run := funext literal?_escape
  rw [alternatives?, hsplit, List.mapM_map, hread, List.mapM_pure, List.map_id']
  rfl

/-- `words?` reads back the runs that `anyWord` writes, if no run has a bar. -/
theorem words?_anyWord {runs : List (List Char)} (hne : runs ≠ []) (h : ∀ run ∈ runs, '|' ∉ run) :
    words? (anyWord runs).toList = some runs := by
  let body := ['|'].intercalate (runs.map escape)
  have hstart : groupStart.isPrefixOf? (groupStart ++ (body ++ groupEnd)) = some (body ++ groupEnd) :=
    List.isPrefixOf?_eq_some_iff_append_eq.2 rfl
  have hend : groupEnd.isSuffixOf? (body ++ groupEnd) = some body :=
    List.isSuffixOf?_eq_some_iff_append_eq.2 rfl
  rw [words?, anyWord, String.toList_ofList, List.append_assoc, hstart, Option.bind_eq_bind,
    Option.bind_some, hend]
  exact alternatives?_intercalate hne h

/-- `literal?` refuses what `anyWord` writes, which starts with a boundary. -/
theorem literal?_anyWord (runs : List (List Char)) : literal? (anyWord runs).toList = none := by
  have hb : isSpecial 'b' = false := by decide
  rw [anyWord, String.toList_ofList, List.append_assoc]
  exact (literalOnto.eq_2 [] 'b' _).trans (by rw [hb]; rfl)

end Pattern

/-- The plain engine reads a pattern as its `plainTest?`. -/
theorem PatternEngine.read_plain {passes : String → Bool} (pattern : String)
    (h : Pattern.plainTest? pattern.toList = some passes) : plain.read pattern = .ok passes := by
  show (Pattern.plainTest? pattern.toList).elim _ _ = _
  rw [h]
  rfl

/-- The plain engine reads texts of any length. -/
theorem PatternEngine.plain_readsTexts (limit : Nat) : plain.ReadsTexts limit where
  run run _ := by
    refine read_plain _ ?_
    rw [String.toList_ofList, Pattern.plainTest?, Pattern.literal?_escape]
  words text _ hne := by
    -- Terms are made of letters and numbers, and a bar is neither.
    have hbar (t : List Char) (ht : t ∈ Text.terms text) : '|' ∉ t := by
      intro hmem
      obtain ⟨front, back, -, hterm⟩ := Text.mem_terms_iff.1 ht
      exact absurd (hterm.letters '|' hmem) (by decide +kernel)
    refine read_plain _ ?_
    rw [Pattern.plainTest?, Pattern.literal?_anyWord, Pattern.words?_anyWord hne hbar]

/-! ## Filters -/

namespace Filter

section
variable [engine : PatternEngine] {limit : Nat}

/-- `Filter.like` tests the field by what `readPattern` makes of the pattern. -/
theorem compile_like (field : NoteField) (pattern : String) :
    (like field pattern).compile = (readPattern pattern).map (textPredicate field) := by
  rw [like, compile]
  rfl

/-- `Filter.like` with the pattern that `escape` writes for a run tests whether the field holds the
run, with an engine that reads texts of that length. -/
theorem compile_like_of_readsTexts (h : engine.ReadsTexts limit) (field : NoteField)
    (run : List Char) (hrun : run.length ≤ limit) :
    (like field (String.ofList (Pattern.escape run))).compile
      = .ok (textPredicate field fun s => Text.occurs run s.toList) := by
  rw [compile_like, readPattern, h.run run hrun]
  rfl

/-- `Filter.words` is `wordsPredicate`, with an engine that reads texts of that length. -/
theorem compile_words_of_readsTexts (h : engine.ReadsTexts limit) {text : String}
    (htext : text.length ≤ limit) : (words text).compile = .ok (wordsPredicate text) := by
  rw [compile, compileWords]
  cases hterms : Text.terms text.toList with
  | nil =>
    refine congrArg Except.ok (funext fun n => ?_)
    have hnone (s : String) : Text.hasTerm [] s.toList = false := by
      rw [Bool.eq_false_iff, Ne, Text.hasTerm_iff]
      simp
    simp [wordsPredicate, hterms, hnone]
  | cons t ts =>
    have hread := h.words text.toList htext (by simp [hterms])
    rw [hterms] at hread
    simp only [List.isEmpty_cons, Bool.false_eq_true, if_false, readPattern, hread]
    simp only [wordsPredicate, hterms]
    rfl

end

/-- `compile_like_of_readsTexts` for the plain engine, which has no limit. -/
theorem compile_like_escape (field : NoteField) (run : List Char) :
    (like field (String.ofList (Pattern.escape run))).compile
      = .ok (textPredicate field fun s => Text.occurs run s.toList) :=
  compile_like_of_readsTexts (PatternEngine.plain_readsTexts run.length) field run le_rfl

/-- `compile_words_of_readsTexts` for the plain engine, which has no limit. -/
theorem compile_words (text : String) : (words text).compile = .ok (wordsPredicate text) :=
  compile_words_of_readsTexts (PatternEngine.plain_readsTexts text.length) le_rfl

end Filter

end NotePager

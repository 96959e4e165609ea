import NotePager.Query.Filter
import NotePager.Query.Pattern
import NotePager.Text.Word

/-!
# The meaning of filters

A filter is compiled to a predicate on notes. Patterns and words are read once, before any note is
looked at, so a pattern that the engine refuses is an error even if no note would have met it. Parts
are compiled in order and the first error counts.
-/

namespace NotePager

/-- Tells which notes pass. -/
abbrev Predicate := Note → Bool

/-- Why a filter has no meaning. -/
inductive FilterError where
  /-- A pattern cannot be read, for the reason that the engine gives. -/
  | badPattern (reason : String)
  /-- The value to match the field with is no text, hence no pattern. -/
  | patternExpected (field : NoteField)
  deriving DecidableEq, Repr

/-- The error in words. -/
def FilterError.message : FilterError → String
  | badPattern reason => reason
  | patternExpected field => "pattern match on " ++ field.name ++ " requires a string value"

/-- The predicate of a comparison other than a match. A field of another kind than the value does
not compare with it at all. -/
def Comparison.holds : Comparison → Ordering → Bool
  | equal, o => o == .eq
  | greater, o => o == .gt
  | less, o => o == .lt
  | like, _ => false

/-- The predicate that the field is a text which passes a test. -/
def textPredicate (field : NoteField) (passes : String → Bool) : Predicate := fun n =>
  match n.value field with
  | .text s => passes s
  | _ => false

variable [PatternEngine]

/-- The test of texts that a pattern describes. -/
def readPattern (pattern : String) : Except FilterError (String → Bool) :=
  (PatternEngine.read pattern).mapError .badPattern

/-- The predicate of one condition. -/
def Condition.compile (c : Condition) : Except FilterError Predicate :=
  match c.comparison, c.value with
  | .like, .text pattern => (readPattern pattern).map (textPredicate c.field)
  | .like, _ => .error (.patternExpected c.field)
  | comparison, value => .ok fun n => ((n.value c.field).compare? value).any comparison.holds

/-- The predicate that the title or the body holds a word of the text. A text without words is read
by no engine, and no note passes. -/
def compileWords (text : String) : Except FilterError Predicate :=
  let terms := Text.terms text.toList
  if terms.isEmpty then .ok fun _ => false
  else (readPattern (Pattern.anyWord terms)).map fun passes n => passes n.title || passes n.body

mutual

/-- The predicate of a filter. -/
def Filter.compile : Filter → Except FilterError Predicate
  | .all fs => (compileParts fs).map fun ps n => ps.all (· n)
  | .any fs => (compileParts fs).map fun ps n => ps.any (· n)
  | .condition c => c.compile
  | .words text => compileWords text

/-- The predicates of the parts of a filter. -/
def compileParts : List Filter → Except FilterError (List Predicate)
  | [] => .ok []
  | f :: fs => do
    let p ← f.compile
    let ps ← compileParts fs
    return p :: ps

end

end NotePager

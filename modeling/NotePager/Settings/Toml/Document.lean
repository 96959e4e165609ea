import NotePager.Settings.Toml.Scalar
import NotePager.Settings.Toml.Tables

/-!
# TOML documents

A document is read line by line into a table. Each line is empty, a header that says which table the
following lines are about, or a key and its value.
-/

namespace NotePager.Toml

/-- The deepest nesting of arrays and inline tables. -/
def maxDepth : Nat := 79

/-- Drop blanks, newlines and comments. -/
def skipLines : Nat → List Char → List Char
  | 0, cs => cs
  | fuel + 1, cs =>
    let cs := skipSpaces cs
    match newline? (skipComment cs) with
    | some rest => skipLines fuel rest
    | none => cs

/-- The further items of an array up to its closing bracket. -/
def items (value : Scan SettingValue) : Nat → Scan (List SettingValue)
  | 0, _ => none
  | fuel + 1, cs =>
    match skipLines cs.length cs with
    | ']' :: rest => some ([], rest)
    | cs => do
      let (v, rest) ← value cs
      match skipLines rest.length rest with
      | ',' :: rest =>
        let (vs, rest) ← items value fuel rest
        some (v :: vs, rest)
      | ']' :: rest => some ([v], rest)
      | _ => none

/-- A key, an equals sign and a value. -/
def pair (value : Scan SettingValue) (cs : List Char) :
    Option ((List String × SettingValue) × List Char) := do
  let (path, rest) ← keyPath cs
  match rest with
  | '=' :: rest =>
    let (v, rest) ← value (skipSpaces rest)
    some ((path, v), rest)
  | _ => none

/-- Put a pair into a table. -/
def insertPair (path : List String) (v : SettingValue) (t : Reached) : Option Reached :=
  match path.getLast? with
  | none => none
  | some key => insert path.dropLast key v t

/-- The further pairs of an inline table up to its closing brace. -/
def pairs (value : Scan SettingValue) : Nat → Reached → Scan Reached
  | 0, _, _ => none
  | fuel + 1, t, cs => do
    let ((path, v), rest) ← pair value (skipSpaces cs)
    let t ← insertPair path v t
    match skipSpaces rest with
    | ',' :: rest => pairs value fuel t rest
    | '\x7d' :: rest => some (t, rest)
    | _ => none

/-- A value. Collections nest up to a depth. -/
def value : Nat → Scan SettingValue
  | depth, cs =>
    match cs with
    | '\x22' :: _ => (anyString '\x22' true cs).map fun (s, rest) => (.text s, rest)
    | '\x27' :: _ => (anyString '\x27' false cs).map fun (s, rest) => (.text s, rest)
    | '[' :: rest =>
      match depth with
      | 0 => none
      | depth + 1 => (items (value depth) (rest.length + 1) rest).map fun (vs, rest) =>
        (.list vs, rest)
    | '\x7b' :: rest =>
      match depth with
      | 0 => none
      | depth + 1 =>
        match skipSpaces rest with
        | '\x7d' :: rest => some (.table [], rest)
        | rest => (pairs (value depth) (rest.length + 1) emptyTable rest).map fun (t, rest) =>
          (t.finish, rest)
    | cs =>
      let (word, rest) := word cs
      (scalar? word).map fun v => (v, rest)

/-- A header: whether its brackets are double, its path, and the text behind the line. -/
def header? (cs : List Char) : Option ((Bool × List String) × List Char) :=
  match cs with
  | '[' :: '[' :: rest => do
    let (path, rest) ← keyPath rest
    match rest with
    | ']' :: ']' :: rest => return ((true, path), ← lineEnd? rest)
    | _ => none
  | '[' :: rest => do
    let (path, rest) ← keyPath rest
    match rest with
    | ']' :: rest => return ((false, path), ← lineEnd? rest)
    | _ => none
  | _ => none

/-- Enter a header into the document. -/
def enterHeader (double : Bool) (path : List String) (document : Reached) : Option Reached :=
  match path.getLast? with
  | none => none
  | some key =>
    if double then append path.dropLast key document else define path.dropLast key document

/-- Read the further lines, which are about the table at `current` until a header says otherwise.
The fuel bounds their number. -/
def lines : Nat → List String → Reached → List Char → Option Reached
  | 0, _, _, _ => none
  | fuel + 1, current, document, cs =>
    match skipSpaces cs with
    | [] => some document
    | '[' :: rest => do
      let ((double, path), rest) ← header? ('[' :: rest)
      lines fuel path (← enterHeader double path document) rest
    | cs =>
      match lineEnd? cs with
      | some rest => lines fuel current document rest
      | none => do
        let ((path, v), rest) ← pair (value maxDepth) cs
        let document ← descend false (insertPair path v) current document
        lines fuel current document (← lineEnd? rest)

/-- The entries of a document. A byte order mark may stand in front. -/
def parse? (s : String) : Option SettingValue :=
  let cs := s.toList
  let cs := if cs.head? == some (Char.ofNat 0xFEFF) then cs.drop 1 else cs
  (lines (cs.length + 1) [] emptyTable cs).map Reached.finish

end NotePager.Toml

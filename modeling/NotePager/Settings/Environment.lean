import NotePager.Encoding.Integer
import NotePager.Settings.Toml.Text
import NotePager.Settings.Value
import NotePager.Text.Blank

/-!
# Settings from environment variables

A variable whose name starts with `NOTES_`, in any case, gives the setting that the rest of its name
spells, with two underscores between the keys of a path. Its value may be written in a small
notation for numbers, truth values, quoted strings, arrays and tables; a value that cannot be read
so is the text as it stands.
-/

namespace NotePager.Environment

open Encoding Toml Text

/-- What the names of the variables start with, in lower case. -/
def namePrefixed : List Char := "notes_".toList

/-- The name with a dot for any two underscores. -/
def dotted : List Char → List Char
  | '_' :: '_' :: cs => '.' :: dotted cs
  | c :: cs => c :: dotted cs
  | [] => []

/-- The path that the name of a variable spells. An empty key ends it. -/
def path? (name : String) : Option (List String) :=
  let cs := (trimChars name.toList).map Char.toLower
  if namePrefixed.isPrefixOf cs then
    let keys := (dotted (trimChars (cs.drop namePrefixed.length))).splitOn '.'
    let path := keys.takeWhile (!·.isEmpty)
    if path.isEmpty then none else some (path.map String.ofList)
  else none

/-! ## Values -/

/-- The blanks of ASCII. -/
def isAsciiBlank (c : Char) : Bool := [9, 10, 12, 13, 32].contains c.toNat

/-- Drop blanks of ASCII. -/
def skipBlanks (cs : List Char) : List Char := cs.dropWhile isAsciiBlank

/-- The character separates values. -/
def isSeparator (c : Char) : Bool := ",[]\x7b\x7d".toList.contains c

/-- The word is a number with a point. -/
def isFraction (word : List Char) : Bool :=
  let cs := match word with
    | '+' :: cs | '-' :: cs => cs
    | cs => cs
  let isExponent (c : Char) : Bool := c == 'e' || c == 'E'
  let mantissa := cs.takeWhile (!isExponent ·)
  let digits := mantissa.filter (· != '.')
  let exponentIsGood := match cs.dropWhile (!isExponent ·) with
    | [] => true
    | _ :: '+' :: ds | _ :: '-' :: ds | _ :: ds => !ds.isEmpty && ds.all Char.isDigit
  mantissa.count '.' == 1 && !digits.isEmpty && digits.all Char.isDigit && exponentIsGood

/-- The value of a word. -/
def ofWord (word : List Char) : SettingValue :=
  let word := trimChars word
  if isFraction word then .fraction
  else match readUnsigned UInt64.size word, readSigned UInt64.size word with
    | .ok n, _ => .integer n
    | .error _, .ok n => .integer n
    | .error _, .error _ => .text (String.ofList word)

/-- A string between quotes: its characters up to the closing quote, escapes included. -/
def quotedOnto : List Char → List Char → Option (List Char × List Char)
  | _, [] => none
  | read, '\\' :: c :: rest => quotedOnto (c :: '\\' :: read) rest
  | read, c :: rest => if c == '\x22' then some (read.reverse, rest) else quotedOnto (c :: read) rest

/-- Replace the escapes of a string behind what is replaced already, which stands in reverse. -/
def unescapeOnto : Nat → List Char → List Char → Option String
  | _, read, [] => some (String.ofList read.reverse)
  | 0, _, _ => none
  | fuel + 1, read, c :: rest =>
    if c == '\\' then do
      let (d, rest) ← escape? rest
      unescapeOnto fuel (d :: read) rest
    else unescapeOnto fuel (c :: read) rest

/-- A string between quotes, the first of which has been read. -/
def quoted? (cs : List Char) : Option (String × List Char) := do
  let (content, rest) ← quotedOnto [] cs
  return (← unescapeOnto content.length [] content, rest)

/-- The further items of a collection up to its closing character. -/
def collect (item : Scan α) (close : Char) : Nat → Scan (List α)
  | 0, _ => none
  | fuel + 1, cs =>
    if cs.head? == some close then some ([], cs.drop 1)
    else do
      let (a, rest) ← item cs
      match rest with
      | ',' :: rest =>
        let (as, rest) ← collect item close fuel rest
        some (a :: as, rest)
      | c :: rest => if c == close then some ([a], rest) else none
      | [] => none

/-- A key, an equals sign and a value. -/
def entry (value : Scan SettingValue) (cs : List Char) :
    Option ((String × SettingValue) × List Char) := do
  let (key, rest) ← match skipBlanks cs with
    | '\x22' :: rest => quoted? rest
    | cs =>
      let key := cs.takeWhile isKeyChar
      if key.isEmpty then none else some (String.ofList key, cs.dropWhile isKeyChar)
  match skipBlanks rest with
  | '=' :: rest =>
    let (v, rest) ← value (skipBlanks rest)
    some ((key, v), skipBlanks rest)
  | _ => none

/-- A value. The fuel bounds how deep collections nest. -/
def value : Nat → Scan SettingValue
  | 0, _ => none
  | fuel + 1, cs => do
    let (v, rest) : SettingValue × List Char ← match skipBlanks cs with
      | 't' :: 'r' :: 'u' :: 'e' :: rest => some (.boolean true, rest)
      | 'f' :: 'a' :: 'l' :: 's' :: 'e' :: rest => some (.boolean false, rest)
      | '\x22' :: rest => (quoted? rest).map fun (s, rest) => (.text s, rest)
      | '\x27' :: c :: '\x27' :: rest => some (.text (String.singleton c), rest)
      | '\x27' :: _ => none
      | '[' :: rest => (collect (value fuel) ']' (rest.length + 1) rest).map fun (vs, rest) =>
        (.list vs, rest)
      | '\x7b' :: rest =>
        (collect (entry (value fuel)) '\x7d' (rest.length + 1) rest).map fun (es, rest) =>
          (SettingValue.ofEntries es, rest)
      | cs => some (ofWord (cs.takeWhile (!isSeparator ·)), cs.dropWhile (!isSeparator ·))
    return (v, skipBlanks rest)

/-- The value that a text spells. -/
def ofText (s : String) : SettingValue :=
  let cs := trimChars s.toList
  match value (cs.length + 1) cs with
  | some (v, []) => v
  | _ => .text (String.ofList cs)

/-- The settings that some variables give. Of two variables for one setting the later counts. -/
def settings (vars : List (String × String)) : SettingValue :=
  vars.foldl (fun settings (name, text) =>
    match path? name with
    | none => settings
    | some path => settings.merge (.atPath path (ofText text))) (.table [])

end NotePager.Environment

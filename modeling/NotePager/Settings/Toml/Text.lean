import NotePager.Encoding.Digits

/-!
# Blanks, keys and strings of TOML

Readers of what stands at the front of a text; each gives what it read and the rest. A string is
*basic*, with escapes, or *literal*, without, and either may run over several lines when its quotes
are tripled. A newline right after a tripled quote is dropped, and up to two quotes may stand right
before the closing ones.
-/

namespace NotePager.Toml

/-- Reads something off the front of a text, if it stands there. -/
abbrev Scan (α : Type) := List Char → Option (α × List Char)

/-- A blank or a tab. -/
def isSpace (c : Char) : Bool := c == ' ' || c == '\t'

/-- The text without the blanks at its front. -/
def skipSpaces (cs : List Char) : List Char := cs.dropWhile isSpace

/-- The character may stand in a comment or, quotes and escapes aside, in a string. -/
def isPlain (c : Char) : Bool := c == '\t' || (0x20 ≤ c.toNat && c.toNat != 0x7F)

/-- The text behind a newline, if it begins with one. -/
def newline? : List Char → Option (List Char)
  | '\n' :: rest => some rest
  | '\r' :: '\n' :: rest => some rest
  | _ => none

/-- The text without the comment at its front, if there is one. -/
def skipComment : List Char → List Char
  | '#' :: rest => rest.dropWhile isPlain
  | cs => cs

/-- The text of the next line: blanks, a comment and a newline or the end have to stand here. -/
def lineEnd? (cs : List Char) : Option (List Char) :=
  match skipComment (skipSpaces cs) with
  | [] => some []
  | cs => newline? cs

/-! ## Escapes -/

/-- The value of a hexadecimal digit. -/
def hexDigit? (c : Char) : Option Nat :=
  if 'a' ≤ c ∧ c ≤ 'f' then some (c.toNat - 87)
  else if 'A' ≤ c ∧ c ≤ 'F' then some (c.toNat - 55)
  else Encoding.decimalDigit? c

/-- The character with this number of hexadecimal digits. -/
def numbered? (width : Nat) (cs : List Char) : Option (Char × List Char) := do
  let digits ← (cs.take width).mapM hexDigit?
  let code := Encoding.ofDigits 16 digits
  if digits.length = width ∧ code.isValidChar then some (Char.ofNat code, cs.drop width) else none

/-- The character that an escape stands for, the backslash of which has been read. -/
def escape? : List Char → Option (Char × List Char)
  | 'b' :: rest => some (Char.ofNat 8, rest)
  | 't' :: rest => some ('\t', rest)
  | 'n' :: rest => some ('\n', rest)
  | 'f' :: rest => some (Char.ofNat 12, rest)
  | 'r' :: rest => some ('\r', rest)
  | '\x22' :: rest => some ('\x22', rest)
  | '\\' :: rest => some ('\\', rest)
  | 'u' :: rest => numbered? 4 rest
  | 'U' :: rest => numbered? 8 rest
  | _ => none

/-- Drop blanks and newlines. -/
def skipBlankLines : Nat → List Char → List Char
  | 0, cs => cs
  | fuel + 1, cs =>
    let cs := skipSpaces cs
    match newline? cs with
    | none => cs
    | some rest => skipBlankLines fuel rest

/-- The text behind a backslash at the end of a line: the newline and all blanks after it are
dropped. The backslash has been read. -/
def lineFolding? (cs : List Char) : Option (List Char) :=
  (newline? (skipSpaces cs)).map fun rest => skipBlankLines rest.length rest

/-! ## Strings -/

/-- A string on one line up to its closing quote. `read` holds the characters so far in reverse; the
fuel bounds their number. -/
def lineStringOnto (quote : Char) (escapes : Bool) : Nat → List Char → Scan String
  | 0, _, _ => none
  | fuel + 1, read, cs =>
    match cs with
    | [] => none
    | c :: rest =>
      if c == quote then some (String.ofList read.reverse, rest)
      else if escapes && c == '\\' then do
        let (d, rest) ← escape? rest
        lineStringOnto quote escapes fuel (d :: read) rest
      else if isPlain c then lineStringOnto quote escapes fuel (c :: read) rest
      else none

/-- A string over several lines up to its closing quotes. -/
def textStringOnto (quote : Char) (escapes : Bool) : Nat → List Char → Scan String
  | 0, _, _ => none
  | fuel + 1, read, cs =>
    match cs with
    | [] => none
    | c :: rest =>
      if c == quote then
        let run := (cs.takeWhile (· == quote)).length
        if run < 3 then textStringOnto quote escapes fuel (c :: read) rest
        else if run ≤ 5 then
          some (String.ofList (List.replicate (run - 3) quote ++ read).reverse, cs.drop run)
        else none
      else if escapes && c == '\\' then
        match lineFolding? rest with
        | some rest => textStringOnto quote escapes fuel read rest
        | none => do
          let (d, rest) ← escape? rest
          textStringOnto quote escapes fuel (d :: read) rest
      else match newline? cs with
        | some rest => textStringOnto quote escapes fuel ('\n' :: read) rest
        | none => if isPlain c then textStringOnto quote escapes fuel (c :: read) rest else none

/-- A string between these quotes, on one line. -/
def lineString (quote : Char) (escapes : Bool) (cs : List Char) : Option (String × List Char) :=
  match cs with
  | [] => none
  | c :: rest => if c == quote then lineStringOnto quote escapes (rest.length + 1) [] rest else none

/-- A string between these quotes, single or tripled. -/
def anyString (quote : Char) (escapes : Bool) (cs : List Char) : Option (String × List Char) :=
  if cs.take 3 == [quote, quote, quote] then
    let rest := cs.drop 3
    let rest := (newline? rest).getD rest
    textStringOnto quote escapes (rest.length + 1) [] rest
  else lineString quote escapes cs

/-! ## Keys -/

/-- The character may stand in a key without quotes. -/
def isKeyChar (c : Char) : Bool := c.isAlphanum || c == '_' || c == '-'

/-- A key without dots. -/
def simpleKey (cs : List Char) : Option (String × List Char) :=
  match cs with
  | '\x22' :: _ => lineString '\x22' true cs
  | '\x27' :: _ => lineString '\x27' false cs
  | _ =>
    let key := cs.takeWhile isKeyChar
    if key.isEmpty then none else some (String.ofList key, cs.dropWhile isKeyChar)

/-- The parts of a key between dots, around which blanks may stand. The fuel bounds their number. -/
def keyParts : Nat → Scan (List String)
  | 0, _ => none
  | fuel + 1, cs => do
    let (key, rest) ← simpleKey (skipSpaces cs)
    match skipSpaces rest with
    | '.' :: rest =>
      let (keys, rest) ← keyParts fuel rest
      some (key :: keys, rest)
    | rest => some ([key], rest)

/-- A key with its dots, as a path. -/
def keyPath (cs : List Char) : Option (List String × List Char) := keyParts (cs.length + 1) cs

end NotePager.Toml

import NotePager.Text.Blank

/-!
# Headers

Header names are tokens: letters, digits and some marks of ASCII. Case does not matter in them. A
header may come several times; the first time counts unless all are asked for.
-/

namespace NotePager.Http

/-- The characters of tokens. -/
def isTokenChar (c : Char) : Bool :=
  c.isAlphanum || "!#$%&'*+-.^_`|~".toList.contains c

/-- A text is a token if it has characters and all of them are token characters. -/
def isToken (cs : List Char) : Bool := !cs.isEmpty && cs.all isTokenChar

/-- The text with A to Z in lower case. -/
def lower (s : String) : String := String.ofList (s.toList.map Char.toLower)

/-- The longest header name, in characters. -/
def maxHeaderName : Nat := 65535

/-- The name of a header in lower case, if it is one. -/
def headerName? (s : String) : Option String :=
  if isToken s.toList && s.length ≤ maxHeaderName then some (lower s) else none

/-- The headers of a message, in order. -/
abbrev Headers := List (String × String)

namespace Headers

/-- All values of a header. A name that is no token names no header. -/
def values (headers : Headers) (name : String) : List String :=
  match headerName? name with
  | none => []
  | some name => headers.filterMap fun (key, value) => if lower key == name then some value else none

/-- The first value of a header. -/
def get? (headers : Headers) (name : String) : Option String := (headers.values name).head?

end Headers

/-- The characters that a readable header value is made of: visible ASCII, blank and tab. -/
def isReadableChar (c : Char) : Bool := (0x20 ≤ c.toNat && c.toNat < 0x7F) || c.toNat == 9

/-- The value, if all its characters are readable. -/
def readable? (value : String) : Option String :=
  if value.toList.all isReadableChar then some value else none

end NotePager.Http

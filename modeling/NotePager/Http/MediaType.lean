import NotePager.Http.Header

/-!
# Media types

A media type has a type, a subtype and parameters. The subtype may end in a plus and a suffix that
names the syntax underneath. Text counts as JSON if its type is `application` and its subtype or
suffix is `json`.
-/

namespace NotePager.Http

/-- Where a reader stands in the parameters of a media type. -/
inductive ParameterState where
  /-- Before a name. -/
  | start
  /-- In a name. -/
  | name
  /-- Behind the equals sign. -/
  | equals
  /-- In a value without quotes. -/
  | value
  /-- Behind the opening quote. -/
  | opened
  /-- In a quoted value. -/
  | quoted
  /-- Behind the closing quote. -/
  | closed
  deriving DecidableEq

namespace ParameterState

/-- The character may stand between quotes. -/
def isQuotable (c : Char) : Bool := 0x20 ≤ c.toNat && c.toNat != 0x7F

/-- Read one more character. A quoted value has at least one character, which may be a quote. -/
def step : ParameterState → Char → Option ParameterState
  | start, c => if c == ' ' then some start else if isTokenChar c then some name else none
  | name, c => if c == '=' then some equals else if isTokenChar c then some name else none
  | equals, c => if c == '\x22' then some opened else if isTokenChar c then some value else none
  | value, c => if c == ';' then some start else if isTokenChar c then some value else none
  | opened, c => if isQuotable c then some quoted else none
  | quoted, c => if c == '\x22' then some closed else if isQuotable c then some quoted else none
  | closed, c => if c == ';' then some start else if c == ' ' then some closed else none

/-- The parameters may end here. -/
def mayEnd : ParameterState → Bool
  | start | equals | value | closed => true
  | name | opened | quoted => false

end ParameterState

/-- The text between a semicolon and the end is a list of parameters. -/
def areParameters (cs : List Char) : Bool :=
  (cs.foldlM ParameterState.step .start).any ParameterState.mayEnd

/-- The suffix of a subtype: what follows the last plus, which is not its first character. -/
def suffix? (subtype : List Char) : Option (List Char) :=
  if (subtype.drop 1).contains '+' then some (subtype.reverse.takeWhile (· != '+')).reverse
  else none

/-- The header value announces JSON. -/
def isJsonType (value : String) : Bool :=
  let cs := (lower value).toList
  let mainType := cs.takeWhile (· != '/')
  let afterType := (cs.dropWhile (· != '/')).drop 1
  let subtype := afterType.takeWhile (· != ';')
  let parameters := (afterType.dropWhile (· != ';')).drop 1
  mainType == "application".toList && subtype.all isTokenChar && areParameters parameters
    && (subtype == "json".toList || suffix? subtype == some "json".toList)

end NotePager.Http

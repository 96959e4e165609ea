import NotePager.Encoding.Integer

/-!
# Listing parameters

A client asks for a listing by named parameters. A parameter that is empty counts as absent, and
names that are not known are passed over. Three parameters are numbers of 64 bits; the others are
taken as they are. What the values mean is not looked at here.
-/

namespace NotePager

open Encoding

/-- The parameters of a listing. -/
structure Parameters where
  limit : Option Int := none
  cursor : Option String := none
  direction : Option String := none
  offset : Option Int := none
  anchor : Option String := none
  span : Option Int := none
  search : Option String := none
  color : Option String := none
  sort : Option String := none
  order : Option String := none
  deriving DecidableEq, Repr

/-- The parameters by name. -/
inductive ParameterName where
  | limit
  | cursor
  | direction
  | offset
  | anchor
  | span
  | search
  | color
  | sort
  | order
  deriving DecidableEq, Repr

namespace ParameterName

/-- The name on the wire. -/
def text : ParameterName → String
  | limit => "limit"
  | cursor => "cursor"
  | direction => "direction"
  | offset => "offset"
  | anchor => "anchor"
  | span => "span"
  | search => "q"
  | color => "color"
  | sort => "sort"
  | order => "order"

/-- All parameters. -/
def all : List ParameterName :=
  [limit, cursor, direction, offset, anchor, span, search, color, sort, order]

/-- The parameter with this name on the wire. -/
def ofText? (s : String) : Option ParameterName := all.find? (·.text == s)

end ParameterName

namespace Parameters

/-- Read a number of 64 bits. -/
def number (value : String) : Except IntegerError Int := readSigned UInt64.size value.toList

/-- Set a parameter to a value that is not empty. -/
def setTo (p : Parameters) (name : ParameterName) (value : String) :
    Except IntegerError Parameters :=
  match name with
  | .limit => (number value).map fun n => { p with limit := some n }
  | .offset => (number value).map fun n => { p with offset := some n }
  | .span => (number value).map fun n => { p with span := some n }
  | .cursor => .ok { p with cursor := some value }
  | .direction => .ok { p with direction := some value }
  | .anchor => .ok { p with anchor := some value }
  | .search => .ok { p with search := some value }
  | .color => .ok { p with color := some value }
  | .sort => .ok { p with sort := some value }
  | .order => .ok { p with order := some value }

/-- Set a parameter. An empty value leaves it absent. -/
def set (p : Parameters) (name : ParameterName) (value : String) : Except IntegerError Parameters :=
  if value.isEmpty then .ok p else p.setTo name value

end Parameters

/-! ## From named values -/

/-- What is given for a parameter when values are not always texts. -/
inductive GivenValue where
  | absent
  | text (s : String)
  | integer (n : Int)
  /-- A number that is not whole, as it is written. -/
  | fraction (written : String)
  | boolean (b : Bool)
  | sequence
  | mapping
  deriving DecidableEq, Repr

/-- Why a value is none for its parameter. -/
inductive GivenError where
  | number (cause : IntegerError)
  /-- The value is not a text. -/
  | textExpected (got : GivenValue)
  deriving DecidableEq, Repr

/-- What a value is, in words. -/
def GivenValue.describe : GivenValue → String
  | absent => "null"
  | text s => "string \"" ++ s ++ "\""
  | integer n => "integer `" ++ toString n ++ "`"
  | fraction written => "floating point `" ++ written ++ "`"
  | boolean b => "boolean `" ++ toString b ++ "`"
  | sequence => "sequence"
  | mapping => "map"

/-- The error in words. -/
def GivenError.message : GivenError → String
  | number cause => cause.message
  | textExpected got => "invalid type: " ++ got.describe ++ ", expected a string"

/-- Set the parameter with this name, if there is one, to what is given. -/
def Parameters.give (p : Parameters) (key : String) (value : GivenValue) :
    Except GivenError Parameters :=
  match ParameterName.ofText? key, value with
  | none, _ => .ok p
  | some _, .absent => .ok p
  | some name, .text s => (p.set name s).mapError .number
  | some _, value => .error (.textExpected value)

/-- The parameters with these values. The first value that is none for its parameter is the
error. -/
def Parameters.ofGiven (values : List (String × GivenValue)) : Except GivenError Parameters :=
  values.foldlM (fun p (key, value) => p.give key value) {}

/-! ## From a query string -/

/-- Why a query string gives no parameters. -/
inductive QueryStringError where
  /-- The parameter is given twice. -/
  | duplicate (name : ParameterName)
  | number (name : ParameterName) (cause : IntegerError)
  deriving DecidableEq, Repr

/-- The error in words. -/
def QueryStringError.message : QueryStringError → String
  | duplicate name => "duplicate field `" ++ name.text ++ "`"
  | number name cause => name.text ++ ": " ++ cause.message

/-- Read further pairs of a query string; `seen` holds the parameters that were given so far. -/
def Parameters.readPairs (seen : List ParameterName) (p : Parameters) :
    List (String × String) → Except QueryStringError Parameters
  | [] => .ok p
  | (key, value) :: pairs =>
    match ParameterName.ofText? key with
    | none => readPairs seen p pairs
    | some name =>
      if seen.contains name then .error (.duplicate name)
      else match p.set name value with
        | .error e => .error (.number name e)
        | .ok p => readPairs (name :: seen) p pairs

/-- The parameters that the pairs of a query string give. -/
def Parameters.ofPairs (pairs : List (String × String)) : Except QueryStringError Parameters :=
  readPairs [] {} pairs

end NotePager

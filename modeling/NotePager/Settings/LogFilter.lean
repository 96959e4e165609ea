import NotePager.Text.Word

/-!
# Log filters

A log filter is a list of directives, each a level for a target or for everything. Of two directives
for one target the later counts. Directives are kept with the more specific ones in front: by the
length of their targets and then by their names, backwards.
-/

namespace NotePager

open Text

/-- How much is logged. -/
inductive LogLevel where
  | off
  | error
  | warn
  | info
  | debug
  | trace
  deriving DecidableEq, Repr

namespace LogLevel

/-- The name of a level. -/
def name : LogLevel → String
  | off => "off"
  | error => "error"
  | warn => "warn"
  | info => "info"
  | debug => "debug"
  | trace => "trace"

/-- All levels, each at the index that also names it. -/
def all : List LogLevel := [off, error, warn, info, debug, trace]

/-- Read a level: its name in any case, or its index. -/
def ofText? (cs : List Char) : Option LogLevel :=
  match cs with
  | [c] => if c.isDigit then all[c.toNat - 48]? else none
  | _ => all.find? fun level => level.name.toList == cs.map Char.toLower

end LogLevel

/-- What is logged of a target, or of everything. -/
structure LogDirective where
  target : Option String
  level : LogLevel
  deriving DecidableEq, Repr

namespace LogDirective

/-- The characters of targets. -/
def isTargetChar (c : Char) : Bool := isWordChar c || c == ':' || c == '-'

/-- The directive of a target by itself. A level is a target too, that of everything. -/
def withTarget (target : List Char) (level : LogLevel) : LogDirective :=
  ⟨if (LogLevel.ofText? target).isSome then none else some (String.ofList target), level⟩

/-- Read a directive: a level, a target, or a target with a level. A target without a level is
logged in full. -/
def ofText? (cs : List Char) : Option LogDirective :=
  let target := cs.takeWhile isTargetChar
  match LogLevel.ofText? cs, cs.dropWhile isTargetChar with
  | some level, _ => some ⟨none, level⟩
  | none, [] => if target.isEmpty then none else some (withTarget target .trace)
  | none, '=' :: level =>
    if target.isEmpty then none
    else if level.isEmpty then some (withTarget target .trace)
    else (LogLevel.ofText? level).map (withTarget target)
  | none, _ => none

/-- The directive in words. -/
def text (d : LogDirective) : String :=
  match d.target with
  | none => d.level.name
  | some target => target ++ "=" ++ d.level.name

/-- The order of directives: longer targets first, then greater names, the one for everything
last. -/
def compare (a b : LogDirective) : Ordering :=
  match a.target, b.target with
  | none, none => .eq
  | none, some _ => .gt
  | some _, none => .lt
  | some a, some b =>
    (Ord.compare b.utf8ByteSize a.utf8ByteSize).then (Ord.compare b a)

end LogDirective

namespace LogFilter

/-- Put a directive in its place among ordered directives. -/
def insert (d : LogDirective) : List LogDirective → List LogDirective
  | [] => [d]
  | e :: ds =>
    match d.compare e with
    | .lt => d :: e :: ds
    | .eq => d :: ds
    | .gt => e :: insert d ds

/-- Read directives between commas. Without any, nothing is logged. -/
def ofText? (s : String) : Option (List LogDirective) :=
  if s.isEmpty then some [⟨none, .off⟩]
  else ((s.splitOn ",").mapM fun part => LogDirective.ofText? part.toList).map fun ds =>
    ds.foldl (fun ordered d => insert d ordered) []

/-- The filter that a setting asks for. A setting that is no filter asks for `info`. -/
def ofSetting (s : String) : List LogDirective := (ofText? s).getD [⟨none, .info⟩]

/-- The filter in words. -/
def text (ds : List LogDirective) : String := String.intercalate "," (ds.map LogDirective.text)

end LogFilter

end NotePager

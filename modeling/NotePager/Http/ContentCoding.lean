import NotePager.Encoding.Digits
import NotePager.Http.Header
import NotePager.Text.Blank

/-!
# Content codings

A client lists the codings that it accepts, each with a weight from 0 to 1 in thousandths. The
coding with the greatest weight wins, and of equal weights compression does. Codings that are not
known, or whose weight cannot be read, are passed over.
-/

namespace NotePager.Http

open Encoding Text

/-- The codings that are known. -/
inductive Coding where
  | identity
  | gzip
  deriving DecidableEq, Repr

/-- The coding with this name. -/
def Coding.ofName? (name : String) : Option Coding :=
  let name := lower name
  if name = "gzip" ∨ name = "x-gzip" then some gzip
  else if name = "identity" then some identity
  else none

/-- The thousandths that up to three digits after the point stand for. -/
def thousandths? (cs : List Char) : Option Nat :=
  if 3 < cs.length then none
  else (cs.mapM decimalDigit?).map fun ds => ofDigits 10 (ds ++ List.replicate (3 - ds.length) 0)

/-- Read a weight such as `q=0.5`, in thousandths. -/
def weight? : List Char → Option Nat
  | q :: '=' :: whole :: rest => do
    if !(q == 'q' || q == 'Q') then none
    let whole ← if whole = '0' then some 0 else if whole = '1' then some 1000 else none
    let n ← match rest with
      | [] => some whole
      | '.' :: digits => (thousandths? digits).map (whole + ·)
      | _ => none
    if n ≤ 1000 then some n else none
  | _ => none

/-- Read one of the codings that a client lists, with its weight. -/
def weighted? (item : List Char) : Option (Nat × Coding) := do
  let coding ← Coding.ofName? (String.ofList (trimChars (item.takeWhile (· != ';'))))
  match item.dropWhile (· != ';') with
  | [] => return (1000, coding)
  | _ :: weight => return (← weight? (trimChars weight), coding)

/-- Of two weighted codings the one to take. -/
def preferred (a b : Nat × Coding) : Nat × Coding :=
  if a.1 < b.1 ∨ (a.1 = b.1 ∧ b.2 = .gzip) then b else a

/-- The coding to use for a client that accepts what its headers list. -/
def acceptedCoding (headers : Headers) : Coding :=
  let items := (headers.values "accept-encoding").filterMap readable?
    |>.flatMap fun value => (value.splitOn ",").map String.toList
  let weighted := (items.filterMap weighted?).filter fun w => 0 < w.1
  (weighted.foldl preferred (0, .identity)).2

/-- Bodies shorter than this are not worth compressing. -/
def minCompressed : Nat := 32

end NotePager.Http

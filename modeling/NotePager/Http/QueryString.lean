import NotePager.Encoding.Percent
import NotePager.Text.Utf8

/-!
# Query strings

A query string lists pairs of a key and a value. In both a plus stands for a blank and percent
encoding for any byte; bytes that are not UTF-8 are replaced.
-/

namespace NotePager.Http

open Encoding Text

/-- The text of a key or a value. -/
def formText (bytes : List UInt8) : String :=
  ofUtf8Lossy (Percent.decode (bytes.map fun b => if b == 0x2B then 0x20 else b))

/-- The key and value of one part of a query string. Without an equals sign the value is empty. -/
def formPair (part : List UInt8) : String × String :=
  (formText (part.takeWhile (· != 0x3D)), formText ((part.dropWhile (· != 0x3D)).drop 1))

/-- The parts of a query string between ampersands, without the empty ones. -/
def queryParts (query : List UInt8) : List (List UInt8) :=
  (query.splitBy fun a b => a != 0x26 && b != 0x26).filter (· != [0x26])

/-- The pairs of a query string. -/
def queryPairs (query : List UInt8) : List (String × String) := (queryParts query).map formPair

end NotePager.Http

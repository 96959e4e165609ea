import NotePager.Json.Scan

/-!
# Readers of typed values

A reader takes a value of some kind off the front of a JSON text. Readers refuse a text at the first
thing that is wrong, in reading order: a value of another kind is refused as soon as it has been
read, a key that comes twice before its second value, a missing member at the end of its object.

A record is read from an object, whose unknown members are skipped, or from an array that lists the
values of the fields in order and may stop early.
-/

namespace NotePager.Json

/-- Takes a value off the front of a text. -/
abbrev Reader (α : Type) := List UInt8 → Except Fault (α × List UInt8)

/-- The value at the front is of another kind than the one that is wanted. It is read all the same,
and the text is refused for what is wrong inside it. -/
def refuseKind (bytes : List UInt8) : Fault :=
  let outcome : Except Fault Unit := match bytes with
    | [] => .error .truncated
    | 0x6E :: rest => (scanWord [0x75, 0x6C, 0x6C] rest).map fun _ => ()
    | 0x74 :: rest => (scanWord [0x72, 0x75, 0x65] rest).map fun _ => ()
    | 0x66 :: rest => (scanWord [0x61, 0x6C, 0x73, 0x65] rest).map fun _ => ()
    | 0x22 :: rest => (scanString rest).map fun _ => ()
    | 0x5B :: _ | 0x7B :: _ => .ok ()
    | b :: _ =>
      if b == 0x2D || isDigitByte b then (scanNumber bytes).map fun _ => ()
      else .error .malformed
  match outcome with
  | .error e => e
  | .ok () => .mismatch

namespace Reader

/-- A string. -/
def string : Reader String := fun bytes =>
  match skipSpaces bytes with
  | 0x22 :: rest => scanString rest
  | bytes => .error (refuseKind bytes)

/-- A truth value. -/
def boolean : Reader Bool := fun bytes =>
  match skipSpaces bytes with
  | 0x74 :: rest => (scanWord [0x72, 0x75, 0x65] rest).map fun rest => (true, rest)
  | 0x66 :: rest => (scanWord [0x61, 0x6C, 0x73, 0x65] rest).map fun rest => (false, rest)
  | bytes => .error (refuseKind bytes)

/-- A whole number from 0 up to, not including, `bound`, written with digits only. -/
def natural (bound : Nat) : Reader Nat := fun bytes =>
  match skipSpaces bytes with
  | [] => .error .truncated
  | b :: rest =>
    if isDigitByte b then
      match scanNumber (b :: rest) with
      | .error e => .error e
      | .ok (n, rest) =>
        if n.fraction.isEmpty && n.exponent.isNone && decide (digitsValue n.whole < bound) then
          .ok (digitsValue n.whole, rest)
        else .error .mismatch
    else .error (refuseKind (b :: rest))

/-- Nothing for `null`, and otherwise what the reader reads. -/
def nullable (read : Reader α) : Reader (Option α) := fun bytes =>
  match skipSpaces bytes with
  | 0x6E :: rest => (scanWord [0x75, 0x6C, 0x6C] rest).map fun rest => (none, rest)
  | bytes => (read bytes).map fun (v, rest) => (some v, rest)

/-- What a partial function makes of the value; a value it does not take is of the wrong kind. -/
def filterMap (read : Reader α) (f : α → Option β) : Reader β := fun bytes =>
  match read bytes with
  | .error e => .error e
  | .ok (v, rest) =>
    match f v with
    | none => .error .mismatch
    | some w => .ok (w, rest)

/-- The text at the next item of an array, or nothing at the end of the array. A comma stands before
every item but the first. -/
def nextItem (first : Bool) (bytes : List UInt8) : Except Fault (Option (List UInt8)) :=
  match skipSpaces bytes with
  | [] => .error .truncated
  | 0x5D :: _ => .ok none
  | b :: rest =>
    if first then .ok (some (b :: rest))
    else if b == 0x2C then
      match skipSpaces rest with
      | [] => .error .truncated
      | 0x5D :: _ => .error .malformed
      | rest => .ok (some rest)
    else .error .malformed

/-- The closing byte of an array or object. -/
def closing (close : UInt8) (bytes : List UInt8) : Except Fault (List UInt8) :=
  match skipSpaces bytes with
  | [] => .error .truncated
  | b :: rest => if b == close then .ok rest else .error .malformed

/-- The further items of an array, up to its end, which is not taken. `items` holds those read so
far, in reverse; the fuel bounds their number. -/
def itemsOnto (read : Reader α) : Nat → List α → Reader (List α)
  | 0, _, _ => .error .malformed
  | fuel + 1, items, bytes => do
    match ← nextItem items.isEmpty bytes with
    | none => .ok (items.reverse, bytes)
    | some rest =>
      let (v, rest) ← read rest
      itemsOnto read fuel (v :: items) rest

/-- An array of values of one kind. -/
def list (read : Reader α) : Reader (List α) := fun bytes =>
  match skipSpaces bytes with
  | 0x5B :: rest => do
    let (items, rest) ← itemsOnto read (rest.length + 1) [] rest
    return (items, ← closing 0x5D rest)
  | bytes => .error (refuseKind bytes)

/-- A field of a record: its key, and a reader of its value into the record read so far. -/
structure Field (σ : Type) where
  key : String
  read : σ → Reader σ

/-- A field whose value a reader reads and a function puts into the record. -/
def Field.into (key : String) (read : Reader α) (set : α → σ → σ) : Field σ where
  key := key
  read record bytes := (read bytes).map fun (v, rest) => (set v record, rest)

/-- The key of the next member with its opening quote read, or nothing at the end of the object. A
comma stands before every member but the first. -/
def nextKey (first : Bool) (bytes : List UInt8) : Except Fault (Option (List UInt8)) :=
  match skipSpaces bytes with
  | [] => .error .truncated
  | 0x7D :: _ => .ok none
  | 0x22 :: rest => if first then .ok (some rest) else .error .malformed
  | 0x2C :: rest =>
    if first then .error .malformed
    else match skipSpaces rest with
      | [] => .error .truncated
      | 0x22 :: rest => .ok (some rest)
      | _ => .error .malformed
  | _ => .error .malformed

/-- The text after the colon that follows a key. -/
def afterColon (bytes : List UInt8) : Except Fault (List UInt8) :=
  match skipSpaces bytes with
  | [] => .error .truncated
  | 0x3A :: rest => .ok rest
  | _ => .error .malformed

/-- The further members of an object, up to its end, which is not taken. `seen` holds the keys of
the fields read so far; the fuel bounds the number of members. -/
def members (fields : List (Field σ)) : Nat → List String → Bool → σ → Reader σ
  | 0, _, _, _, _ => .error .malformed
  | fuel + 1, seen, first, record, bytes => do
    match ← nextKey first bytes with
    | none => .ok (record, bytes)
    | some rest =>
      let (key, rest) ← scanString rest
      match fields.find? fun f => f.key == key with
      | some field =>
        if seen.contains key then .error .mismatch
        else
          let rest ← afterColon rest
          let (record, rest) ← field.read record rest
          members fields fuel (key :: seen) false record rest
      | none =>
        let rest ← afterColon rest
        let rest ← skipValue rest
        members fields fuel seen false record rest

/-- The items of an array that lists fields in order. The array may end before the last field; its
end is not taken. -/
def entries : List (Field σ) → Bool → σ → Reader σ
  | [], _, record, bytes => .ok (record, bytes)
  | field :: fields, first, record, bytes => do
    match ← nextItem first bytes with
    | none => .ok (record, bytes)
    | some rest =>
      let (record, rest) ← field.read record rest
      entries fields false record rest

/-- A record: an object with members for its fields, or an array with their values. `finish` makes
the record from the fields that were there; without a field it needs, the kind is wrong. -/
def record (fields : List (Field σ)) (start : σ) (finish : σ → Option α) : Reader α := fun bytes =>
  match skipSpaces bytes with
  | 0x7B :: rest => do
    let (state, rest) ← members fields (rest.length + 1) [] true start rest
    match finish state with
    | none => .error .mismatch
    | some v => return (v, ← closing 0x7D rest)
  | 0x5B :: rest => do
    let (state, rest) ← entries fields true start rest
    match finish state with
    | none => .error .mismatch
    | some v => return (v, ← closing 0x5D rest)
  | bytes => .error (refuseKind bytes)

/-- The value of a whole text, around which blanks may stand. -/
def run (read : Reader α) (bytes : List UInt8) : Except Fault α := do
  let (v, rest) ← read bytes
  if (skipSpaces rest).isEmpty then .ok v else .error .malformed

end Reader

end NotePager.Json

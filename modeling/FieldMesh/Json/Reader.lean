import FieldMesh.Json.Basic

/-! # Reading JSON

A reader of one value from text. A number without a fraction and an exponent is whole if it
fits into 64 bits, with or without sign, and is not a negative zero; every other number is the
nearest floating-point number. Nesting is bounded by the length of the text.
-/

namespace FieldMesh

namespace Json

namespace Reader

def isBlank (c : Char) : Bool := c = ' ' || c = '\n' || c = '\t' || c = '\r'

def skip (cs : List Char) : List Char := cs.dropWhile isBlank

def hexDigit? (c : Char) : Option Nat :=
  if '0' ≤ c ∧ c ≤ '9' then some (c.toNat - '0'.toNat)
  else if 'a' ≤ c ∧ c ≤ 'f' then some (c.toNat - 'a'.toNat + 10)
  else if 'A' ≤ c ∧ c ≤ 'F' then some (c.toNat - 'A'.toNat + 10)
  else none

/-- The unit that four hexadecimal digits name. -/
def unit? : List Char → Option (Nat × List Char)
  | a :: b :: c :: d :: rest => do
    let a ← hexDigit? a
    let b ← hexDigit? b
    let c ← hexDigit? c
    let d ← hexDigit? d
    return (((a * 16 + b) * 16 + c) * 16 + d, rest)
  | _ => none

/-- The character that an escape by number names; a character beyond 16 bits takes two units. -/
def escaped? (cs : List Char) : Option (Char × List Char) := do
  let (high, rest) ← unit? cs
  if 0xd800 ≤ high ∧ high < 0xdc00 then
    match rest with
    | '\\' :: 'u' :: rest =>
      let (low, rest) ← unit? rest
      if 0xdc00 ≤ low ∧ low < 0xe000 then
        return (Char.ofNat (0x10000 + (high - 0xd800) * 0x400 + (low - 0xdc00)), rest)
      else none
    | _ => none
  else if 0xdc00 ≤ high ∧ high < 0xe000 then none
  else return (Char.ofNat high, rest)

def letter? (c : Char) : Option Char :=
  match c with
  | '"' => some '"'
  | '\\' => some '\\'
  | '/' => some '/'
  | 'b' => some '\x08'
  | 'f' => some '\x0c'
  | 'n' => some '\n'
  | 'r' => some '\r'
  | 't' => some '\t'
  | _ => none

/-- The rest of a string after its opening quote; `done` holds what was read, last first. -/
def string? : Nat → List Char → List Char → Option (String × List Char)
  | 0, _, _ => none
  | n + 1, done, cs =>
    match cs with
    | '"' :: rest => some (String.ofList done.reverse, rest)
    | '\\' :: 'u' :: rest =>
      match escaped? rest with
      | some (c, rest) => string? n (c :: done) rest
      | none => none
    | '\\' :: c :: rest =>
      match letter? c with
      | some c => string? n (c :: done) rest
      | none => none
    | c :: rest => if c.toNat < 0x20 then none else string? n (c :: done) rest
    | [] => none

def digitsValue (ds : List Char) : Nat := ds.foldl (fun n c => n * 10 + (c.toNat - '0'.toNat)) 0

/-- The number `digits * 10 ^ exponent`. -/
def floatOf (negative : Bool) (digits : Nat) (exponent : Int) : Float :=
  let magnitude :=
    if exponent < 0 then Float.ofScientific digits true exponent.natAbs
    else Float.ofScientific digits false exponent.natAbs
  if negative then -magnitude else magnitude

def exponent? : List Char → Option (Option Int × List Char)
  | c :: rest =>
    if c = 'e' ∨ c = 'E' then
      let (negative, rest) :=
        match rest with
        | '-' :: rest => (true, rest)
        | '+' :: rest => (false, rest)
        | _ => (false, rest)
      let ds := rest.takeWhile Char.isDigit
      if ds.isEmpty then none
      else
        let n : Int := digitsValue ds
        some (some (if negative then -n else n), rest.dropWhile Char.isDigit)
    else some (none, c :: rest)
  | [] => some (none, [])

def fraction? : List Char → Option (Option (List Char) × List Char)
  | '.' :: rest =>
    let ds := rest.takeWhile Char.isDigit
    if ds.isEmpty then none else some (some ds, rest.dropWhile Char.isDigit)
  | cs => some (none, cs)

def wholeValue (negative : Bool) (digits : Nat) : Json :=
  if negative then
    if 0 < digits ∧ digits ≤ 0x8000000000000000 then .int (-(digits : Int))
    else .float (floatOf true digits 0)
  else if digits < 0x10000000000000000 then .int digits
  else .float (floatOf false digits 0)

def number? (cs : List Char) : Option (Json × List Char) := do
  let (negative, cs) :=
    match cs with
    | '-' :: rest => (true, rest)
    | _ => (false, cs)
  let whole := cs.takeWhile Char.isDigit
  if whole.isEmpty || (whole.length != 1 && whole.head? == some '0') then none
  else
    let (fraction, cs) ← fraction? (cs.dropWhile Char.isDigit)
    let (exponent, cs) ← exponent? cs
    match fraction, exponent with
    | none, none => return (wholeValue negative (digitsValue whole), cs)
    | _, _ =>
      let places := fraction.getD []
      return (.float (floatOf negative (digitsValue (whole ++ places))
        (exponent.getD 0 - places.length)), cs)

def after? (word : List Char) (cs : List Char) : Option (List Char) :=
  if word.isPrefixOf cs then some (cs.drop word.length) else none

mutual

/-- One value; `n` bounds the nesting and the number of tokens. -/
def value? : Nat → List Char → Option (Json × List Char)
  | 0, _ => none
  | n + 1, cs =>
    match skip cs with
    | '[' :: rest =>
      match skip rest with
      | ']' :: rest => some (.arr [], rest)
      | rest => items? n [] rest
    | '\x7b' :: rest =>
      match skip rest with
      | '\x7d' :: rest => some (.obj [], rest)
      | rest => entries? n [] rest
    | '"' :: rest => (string? (rest.length + 1) [] rest).map fun (s, rest) => (.str s, rest)
    | 'n' :: rest => (after? ['u', 'l', 'l'] rest).map fun rest => (.null, rest)
    | 't' :: rest => (after? ['r', 'u', 'e'] rest).map fun rest => (.bool true, rest)
    | 'f' :: rest => (after? ['a', 'l', 's', 'e'] rest).map fun rest => (.bool false, rest)
    | rest => number? rest

/-- The items of a list up to its end; `done` holds those that were read, last first. -/
def items? : Nat → List Json → List Char → Option (Json × List Char)
  | 0, _, _ => none
  | n + 1, done, cs => do
    let (item, rest) ← value? n cs
    match skip rest with
    | ',' :: rest => items? n (item :: done) rest
    | ']' :: rest => some (.arr (item :: done).reverse, rest)
    | _ => none

def entries? : Nat → List (String × Json) → List Char → Option (Json × List Char)
  | 0, _, _ => none
  | n + 1, done, cs => do
    match skip cs with
    | '"' :: rest =>
      let (key, rest) ← string? (rest.length + 1) [] rest
      match skip rest with
      | ':' :: rest =>
        let (value, rest) ← value? n rest
        match skip rest with
        | ',' :: rest => entries? n ((key, value) :: done) rest
        | '\x7d' :: rest => some (ofEntries ((key, value) :: done).reverse, rest)
        | _ => none
      | _ => none
    | _ => none

end

end Reader

def parse? (text : String) : Option Json :=
  let cs := text.toList
  match Reader.value? (2 * cs.length + 1) cs with
  | some (value, rest) => if (Reader.skip rest).isEmpty then some value else none
  | none => none

end Json

end FieldMesh

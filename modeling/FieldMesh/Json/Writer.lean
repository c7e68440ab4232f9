import FieldMesh.Decimal.Layout
import FieldMesh.Json.Basic
import FieldMesh.Text.Quoted

/-! # Writing JSON

Values are written without blanks. In a string the quote, the backslash and the control
characters are escaped; every other character stands for itself.
-/

namespace FieldMesh

namespace Json

def escape (c : Char) : List Char :=
  if c = '"' then ['\\', '"']
  else if c = '\\' then ['\\', '\\']
  else if c.toNat < 0x20 then
    let digits := Quoted.hex c.toNat
    ['\\', 'u'] ++ List.replicate (4 - digits.length) '0' ++ digits
  else [c]

def writeString (s : String) : String := String.ofList ('"' :: s.toList.flatMap escape ++ ['"'])

mutual

/-- The text of a value; a number that no text stands for is written as null. -/
def write : Json → String
  | null => "null"
  | bool b => if b then "true" else "false"
  | int i => toString i
  | float x => if x.isFinite then NumberLayout.data.write x else "null"
  | str s => writeString s
  | arr items => "[" ++ writeItems items ++ "]"
  | obj entries => "\x7b" ++ writeEntries entries ++ "\x7d"

def writeItems : List Json → String
  | [] => ""
  | [j] => j.write
  | j :: rest => j.write ++ "," ++ writeItems rest

def writeEntries : List (String × Json) → String
  | [] => ""
  | [(k, j)] => writeString k ++ ":" ++ j.write
  | (k, j) :: rest => writeString k ++ ":" ++ j.write ++ "," ++ writeEntries rest

end

end Json

end FieldMesh

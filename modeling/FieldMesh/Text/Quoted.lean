import FieldMesh.Text.Attaching
import FieldMesh.Text.Filler
import FieldMesh.Text.Hidden
import FieldMesh.Text.Late

/-! # Quoted text

A quoted text stands between double quotes. The quote and the backslash are escaped by a
backslash, and so is every character that would not show as itself: a few have a letter of
their own, the others are written as their code point in hexadecimal digits. User modules put
texts between apostrophes by rules of their own: they show attaching characters and fillers as
they are, and do not know the latest characters.
-/

namespace FieldMesh

namespace Quoted

/-- Whether a character is written by number between double quotes. -/
def isNumbered (c : Char) : Bool :=
  CharSet.hidden.holds c.toNat || CharSet.fillers.holds c.toNat ||
    CharSet.attaching.holds c.toNat

/-- Whether a user module writes a character by number. -/
def isUnknown (c : Char) : Bool := CharSet.hidden.holds c.toNat || CharSet.late.holds c.toNat

def hex (n : Nat) : List Char := Nat.toDigits 16 n

def escape (c : Char) : List Char :=
  if c = '"' then ['\\', '"']
  else if c = '\\' then ['\\', '\\']
  else if c = '\n' then ['\\', 'n']
  else if c = '\t' then ['\\', 't']
  else if c = '\r' then ['\\', 'r']
  else if c = '\x00' then ['\\', '0']
  else if isNumbered c then ['\\', 'u', '\x7b'] ++ hex c.toNat ++ ['\x7d']
  else [c]

def quote (s : String) : String := String.ofList ('"' :: s.toList.flatMap escape ++ ['"'])

def paddedHex (width n : Nat) : List Char :=
  List.replicate (width - (hex n).length) '0' ++ hex n

/-- How a user module writes one character of a text between marks of one kind. -/
def escapeBetween (mark c : Char) : List Char :=
  if c = mark then ['\\', c]
  else if c = '\\' then ['\\', '\\']
  else if c = '\n' then ['\\', 'n']
  else if c = '\t' then ['\\', 't']
  else if c = '\r' then ['\\', 'r']
  else if isUnknown c then
    if c.toNat < 0x100 then ['\\', 'x'] ++ paddedHex 2 c.toNat
    else if c.toNat < 0x10000 then ['\\', 'u'] ++ paddedHex 4 c.toNat
    else ['\\', 'U'] ++ paddedHex 8 c.toNat
  else [c]

/-- A text between apostrophes, or between quotes if it holds an apostrophe and no quote. -/
def apostrophed (s : String) : String :=
  let mark := if s.toList.contains '\'' && !s.toList.contains '"' then '"' else '\''
  String.ofList (mark :: s.toList.flatMap (escapeBetween mark) ++ [mark])

end Quoted

end FieldMesh

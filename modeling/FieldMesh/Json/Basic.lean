/-! # JSON values

Whole numbers and floating-point numbers are kept apart. The entries of an object are sorted
by key, and each key occurs once.
-/

namespace FieldMesh

inductive Json where
  | null
  | bool (b : Bool)
  | int (i : Int)
  | float (x : Float)
  | str (s : String)
  | arr (items : List Json)
  | obj (entries : List (String × Json))
deriving Inhabited

namespace Json

/-- Puts an entry in its place in sorted entries; an entry of the same key is replaced. -/
def insertEntry (key : String) (value : Json) : List (String × Json) → List (String × Json)
  | [] => [(key, value)]
  | (k, v) :: rest =>
    if key < k then (key, value) :: (k, v) :: rest
    else if key = k then (key, value) :: rest
    else (k, v) :: insertEntry key value rest

/-- The object of some entries, the last of each key. -/
def ofEntries (entries : List (String × Json)) : Json :=
  obj (entries.foldl (fun sorted e => insertEntry e.1 e.2 sorted) [])

def get? (j : Json) (key : String) : Option Json :=
  match j with
  | obj entries => entries.lookup key
  | _ => none

end Json

end FieldMesh

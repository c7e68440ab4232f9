/-! # Named values

A closed set of values of which each has a name. Names are listed in the order in which the
values are declared.
-/

namespace FieldMesh

/-- The values of a closed set with their names. -/
class Named (α : Type) where
  all : List α
  name : α → String

namespace Named

variable {α : Type} [Named α]

def ofName? (s : String) : Option α := (all : List α).find? fun a => name a == s

def names (α : Type) [Named α] : List String := (all : List α).map name

end Named

end FieldMesh

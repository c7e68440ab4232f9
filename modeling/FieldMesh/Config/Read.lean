import FieldMesh.Config.Error
import FieldMesh.Ident
import FieldMesh.Text.Named

/-! # Reading single values

Readers of texts, of numbered ids and of choices among named values. A choice is written as
its name, or as an object whose only key is its name.
-/

namespace FieldMesh

namespace Json

/-- A text; `expected` says what kind of text is wanted. -/
def readText (expected : String) : Json → Except ConfigError String
  | str s => .ok s
  | j => .error (.wrongKind j expected)

def readOptional (expected : String) : Json → Except ConfigError (Option String)
  | null => .ok none
  | j => (j.readText expected).map some

/-- A natural number below a limit; `expected` names the kind of numbers below it. -/
def readNumber (limit : Nat) (expected : String) : Json → Except ConfigError Nat
  | int i =>
    if 0 ≤ i ∧ i < limit then .ok i.toNat else .error (.wrongValue (int i) expected)
  | j => .error (.wrongKind j expected)

def readName {α : Type} [Named α] (name : String) : Except ConfigError α :=
  match Named.ofName? name with
  | some a => .ok a
  | none => .error (.unknownName name (Named.names α))

/-- What stands beside the name of a choice: nothing, or an empty object if that is allowed. -/
def readNothing (allowEmpty : Bool) : Json → Except ConfigError Unit
  | null => .ok ()
  | obj [] => if allowEmpty then .ok () else .error (.wrongKind (obj []) "unit")
  | j => .error (.wrongKind j "unit")

def readChoice {α : Type} [Named α] (allowEmpty : Bool) : Json → Except ConfigError α
  | str s => readName s
  | obj [(key, value)] => do
    let a ← readName key
    value.readNothing allowEmpty
    return a
  | obj entries => .error (.wrongValue (obj entries) "map with a single key")
  | j => .error (.wrongKind j "string or map")

theorem readChoice_str_name {α : Type} [Named α] {allowEmpty : Bool} {a : α}
    (h : Named.ofName? (Named.name a) = some a) :
    (str (Named.name a)).readChoice allowEmpty = .ok a := by
  simp [readChoice, readName, h]

end Json

namespace VertexId

/-- The id of a number of 32 bits. -/
def ofJson (j : Json) : Except ConfigError VertexId := (j.readNumber 0x100000000 "u32").map mk

def toJson (v : VertexId) : Json := .int v.raw

end VertexId

namespace FieldId

/-- The id of a number of 64 bits. -/
def ofJson (j : Json) : Except ConfigError FieldId :=
  (j.readNumber 0x10000000000000000 "usize").map mk

def toJson (d : FieldId) : Json := .int d.raw

end FieldId

end FieldMesh

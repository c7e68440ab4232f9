import FieldMesh.Decimal.Layout
import FieldMesh.Json.Basic
import FieldMesh.Text.Quoted

/-! # Why a configuration is refused

A value of the wrong kind is described, not repeated: strings, numbers and truth values are
shown, lists and objects only named.
-/

namespace FieldMesh

/-- What a value is, for an error text. -/
def Json.description : Json → String
  | null => "null"
  | bool b => s!"boolean `{b}`"
  | int i => s!"integer `{i}`"
  | float x => s!"floating point `{NumberLayout.data.write x}`"
  | str s => s!"string {Quoted.quote s}"
  | arr _ => "sequence"
  | obj _ => "map"

inductive ConfigError where
  | wrongKind (found : Json) (expected : String)
  | wrongValue (found : Json) (expected : String)
  | unknownName (name : String) (known : List String)
  | missingField (name : String)
  | wrongLength (found : Nat) (expected : String)
deriving Inhabited

namespace ConfigError

def alternatives (known : List String) : String :=
  match known.map fun name => s!"`{name}`" with
  | [a, b] => s!"{a} or {b}"
  | names => "one of " ++ ", ".intercalate names

def message : ConfigError → String
  | wrongKind found expected => s!"invalid type: {found.description}, expected {expected}"
  | wrongValue found expected => s!"invalid value: {found.description}, expected {expected}"
  | unknownName name known => s!"unknown variant `{name}`, expected {alternatives known}"
  | missingField name => s!"missing field `{name}`"
  | wrongLength found expected => s!"invalid length {found}, expected {expected}"

end ConfigError

end FieldMesh

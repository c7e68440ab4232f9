import FieldMesh.Config.Read
import FieldMesh.Scaling

/-! # Configured actions

A configuration describes an action by names: the mesh and the fields are looked up when the
action is built. It is read from an object, whose entries are checked in the order of their
keys before any is found missing, or from a list, which gives the kind and then the fields in
the order of declaration. Written, it is an object with every field of its kind.
-/

namespace FieldMesh

inductive ConfigKind where
  | scaleByDt
  | scaleByArea
  | scripted
deriving DecidableEq, Inhabited, Repr

inductive ActionConfig where
  | scaleByDt (timing : Timing) (mesh source target : String) (scaling : DtScaling)
  | scaleByArea (timing : Timing) (mesh target : String) (scaling : AreaScaling)
  | scripted (timing : Timing) (mesh path module : String) (source target : Option String)
deriving DecidableEq, Inhabited, Repr

namespace ConfigKind

def text : ConfigKind → String
  | scaleByDt => "scale-by-dt"
  | scaleByArea => "scale-by-area"
  | scripted => "python"

def tag : ConfigKind → String
  | scaleByDt => "ScaleByDt"
  | scaleByArea => "ScaleByArea"
  | scripted => "Python"

instance : Named ConfigKind where
  all := [scaleByDt, scaleByArea, scripted]
  name := text

/-- Reads a value for its faults only. -/
def faultsOf {α : Type} (read : Json → Except ConfigError α) (j : Json) :
    Except ConfigError Unit := (read j).map fun _ => ()

def timing : Json → Except ConfigError Timing := Json.readChoice true

def name : Json → Except ConfigError String := Json.readText "a string"

def optionalName : Json → Except ConfigError (Option String) := Json.readOptional "a string"

def path : Json → Except ConfigError String := Json.readText "path string"

/-- The fields of a kind in the order of declaration, each with a check of its value. -/
def fields : ConfigKind → List (String × (Json → Except ConfigError Unit))
  | scaleByDt => [("timing", faultsOf timing), ("mesh", faultsOf name), ("source", faultsOf name),
      ("target", faultsOf name), ("scaling", faultsOf (Json.readChoice (α := DtScaling) true))]
  | scaleByArea => [("timing", faultsOf timing), ("mesh", faultsOf name),
      ("target", faultsOf name), ("scaling", faultsOf (Json.readChoice (α := AreaScaling) true))]
  | scripted => [("timing", faultsOf timing), ("mesh", faultsOf name),
      ("module-path", faultsOf path), ("module", faultsOf name),
      ("source", faultsOf optionalName), ("target", faultsOf optionalName)]

/-- Checks the values of those entries that are fields of the kind, in the order given. -/
def checkEntries (k : ConfigKind) (entries : List (String × Json)) : Except ConfigError Unit :=
  entries.forM fun (key, value) =>
    match k.fields.lookup key with
    | some check => check value
    | none => .ok ()

def required {α : Type} (absent : String → ConfigError) (entries : List (String × Json))
    (key : String) (read : Json → Except ConfigError α) : Except ConfigError α :=
  match entries.lookup key with
  | some j => read j
  | none => .error (absent key)

def optional {α : Type} (entries : List (String × Json)) (key : String)
    (read : Json → Except ConfigError α) (default : α) : Except ConfigError α :=
  match entries.lookup key with
  | some j => read j
  | none => .ok default

/-- Takes the fields from entries; `absent` is the error for a field that is missing. -/
def assemble (k : ConfigKind) (absent : String → ConfigError) (entries : List (String × Json)) :
    Except ConfigError ActionConfig :=
  match k with
  | scaleByDt => do
    return .scaleByDt (← required absent entries "timing" timing)
      (← required absent entries "mesh" name) (← required absent entries "source" name)
      (← required absent entries "target" name)
      (← required absent entries "scaling" (Json.readChoice true))
  | scaleByArea => do
    return .scaleByArea (← required absent entries "timing" timing)
      (← required absent entries "mesh" name) (← required absent entries "target" name)
      (← required absent entries "scaling" (Json.readChoice true))
  | scripted => do
    return .scripted (← required absent entries "timing" timing)
      (← required absent entries "mesh" name) (← optional entries "module-path" path "")
      (← required absent entries "module" name)
      (← optional entries "source" optionalName none)
      (← optional entries "target" optionalName none)

def ofJson : Json → Except ConfigError ConfigKind
  | .str s => Json.readName s
  | j => .error (.wrongKind j "variant identifier")

def ofEntries (k : ConfigKind) (entries : List (String × Json)) :
    Except ConfigError ActionConfig := do
  k.checkEntries entries
  k.assemble .missingField entries

/-- A list that ends before a field. -/
def tooShort (k : ConfigKind) (key : String) : ConfigError :=
  .wrongLength ((k.fields.map Prod.fst).idxOf key)
    s!"struct variant ActionConfig::{k.tag} with {k.fields.length} elements"

/-- The fields of a list in the order of declaration. -/
def ofItems (k : ConfigKind) (items : List Json) : Except ConfigError ActionConfig := do
  let entries := (k.fields.map Prod.fst).zip items
  k.checkEntries entries
  let config ← k.assemble k.tooShort entries
  if items.length ≤ k.fields.length then return config
  else .error (.wrongLength items.length s!"{k.fields.length} elements in sequence")

end ConfigKind

namespace ActionConfig

def ofJson : Json → Except ConfigError ActionConfig
  | .obj entries =>
    match entries.lookup "type" with
    | none => .error (.missingField "type")
    | some j => do (← ConfigKind.ofJson j).ofEntries entries
  | .arr [] => .error (.missingField "type")
  | .arr (j :: items) => do (← ConfigKind.ofJson j).ofItems items
  | j => .error (.wrongKind j "internally tagged enum ActionConfig")

def listOfJson : Json → Except ConfigError (List ActionConfig)
  | .arr items => items.mapM ofJson
  | j => .error (.wrongKind j "a sequence")

def kind : ActionConfig → ConfigKind
  | scaleByDt .. => .scaleByDt
  | scaleByArea .. => .scaleByArea
  | scripted .. => .scripted

def timing : ActionConfig → Timing
  | scaleByDt timing .. => timing
  | scaleByArea timing .. => timing
  | scripted timing .. => timing

def mesh : ActionConfig → String
  | scaleByDt _ mesh .. => mesh
  | scaleByArea _ mesh .. => mesh
  | scripted _ mesh .. => mesh

def writeOptional : Option String → Json
  | some s => .str s
  | none => .null

def entries : ActionConfig → List (String × Json)
  | scaleByDt timing mesh source target scaling =>
    [("timing", .str timing.text), ("mesh", .str mesh), ("source", .str source),
      ("target", .str target), ("scaling", .str scaling.text)]
  | scaleByArea timing mesh target scaling =>
    [("timing", .str timing.text), ("mesh", .str mesh), ("target", .str target),
      ("scaling", .str scaling.text)]
  | scripted timing mesh path module source target =>
    [("timing", .str timing.text), ("mesh", .str mesh), ("module-path", .str path),
      ("module", .str module), ("source", writeOptional source), ("target", writeOptional target)]

def toJson (c : ActionConfig) : Json := Json.ofEntries (("type", .str c.kind.text) :: c.entries)

end ActionConfig

end FieldMesh

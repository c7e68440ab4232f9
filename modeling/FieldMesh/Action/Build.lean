import FieldMesh.Action.Kinds
import FieldMesh.Action.Registry
import FieldMesh.Config.Basic

/-! # Building actions from configurations

The names of a configuration are looked up in its mesh, the source before the target. User
modules can be left out of a build of the library: their configurations are then read, but not
built.
-/

namespace FieldMesh

namespace ActionConfig

/-- Looks up the id of a field by its name, for a mesh that is not in exclusive use. -/
def lookUp (c : Coupling) (mesh : String) (k : MeshKey) (name : String) :
    Except ActionError FieldId :=
  match c.borrow k with
  | .exclusive => .error (.busy mesh)
  | _ => ((c.mesh k).fieldNamed name).mapError .mesh

def lookUpOptional (c : Coupling) (mesh : String) (k : MeshKey) :
    Option String → Except ActionError (Option FieldId)
  | none => .ok none
  | some name => (lookUp c mesh k name).map some

/-- A user module in a build without user modules. -/
def leftOut (module : String) : ActionError :=
  .runtime s!"cannot load python module `{module}`: built without the `python` feature"

/-- Builds the configured action on a mesh; `scripting` tells whether user modules are part of
the build. -/
def build (scripting : Bool) (c : Coupling) (k : MeshKey) :
    ActionConfig → Except ActionError Action
  | scaleByDt timing mesh source target scaling => do
    let source ← lookUp c mesh k source
    let target ← lookUp c mesh k target
    return .scaleByDt timing k source target scaling
  | scaleByArea timing mesh target scaling => do
    return .scaleByArea timing k (← lookUp c mesh k target) scaling
  | scripted timing mesh path module source target => do
    let source ← lookUpOptional c mesh k source
    let target ← lookUpOptional c mesh k target
    if scripting then return .scripted (.new timing path module k source target)
    else .error (leftOut module)

end ActionConfig

namespace Registry

def unknownMesh (config : ActionConfig) : ActionError :=
  .incompatible config.kind.text s!"unknown mesh `{config.mesh}`"

/-- Builds and registers actions in order until one cannot be built. -/
def registerConfigs (scripting : Bool) (resolve : String → Option MeshKey) :
    List ActionConfig → Registry Action → Coupling →
      Except ActionError (Registry Action) × Coupling
  | [], r, c => (.ok r, c)
  | config :: rest, r, c =>
    match resolve config.mesh with
    | none => (.error (unknownMesh config), c)
    | some k =>
      match config.build scripting c k with
      | .error e => (.error e, c)
      | .ok a =>
        let (r, c) := r.register a c
        registerConfigs scripting resolve rest r c

/-- A registry of configured actions; `resolve` finds the meshes of their names. -/
def ofConfigs (scripting : Bool) (resolve : String → Option MeshKey) (configs : List ActionConfig)
    (c : Coupling) : Except ActionError (Registry Action) × Coupling :=
  registerConfigs scripting resolve configs empty c

def release (r : Registry Action) (c : Coupling) : Coupling :=
  r.actions.foldl (fun c a => a.release c) c

end Registry

end FieldMesh

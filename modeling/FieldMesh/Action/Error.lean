import FieldMesh.Mesh.Error

/-! # Why an action fails

The causes for which an action cannot be built or performed. None is retried.
-/

namespace FieldMesh

/-- Why an action could not be built or performed. -/
inductive ActionError where
  | importFailed (module path message : String)
  | missingHook (module function : String)
  /-- A field could not be lent to the user's module or taken back. -/
  | marshal (module field reason : String)
  | hookFailed (module function message : String)
  /-- The interpreter of user modules is not at hand. -/
  | runtime (message : String)
  | busy (mesh : String)
  /-- The configured fields do not fit the action. -/
  | incompatible (action reason : String)
  | native (action message : String)
  | mesh (error : MeshError)
deriving DecidableEq, Inhabited, Repr

def ActionError.message : ActionError → String
  | importFailed module path message =>
    s!"python module `{module}` could not be imported from `{path}`: {message}"
  | missingHook module function =>
    s!"python module `{module}` does not define mandatory function `{function}`"
  | marshal module field reason =>
    s!"cannot marshal data `{field}` for python module `{module}`: {reason}"
  | hookFailed module function message =>
    s!"function `{function}` of python module `{module}` failed: {message}"
  | runtime message => s!"python runtime error: {message}"
  | busy name => s!"mesh `{name}` is already borrowed while an action runs on it"
  | incompatible action reason => s!"action `{action}` cannot use the configured data: {reason}"
  | native action message => s!"native action `{action}` failed: {message}"
  | mesh error => error.message

end FieldMesh

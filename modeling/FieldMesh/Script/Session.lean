import FieldMesh.Script.Execute

/-! # Sessions of the interpreter

Every loaded action and every guard uses the interpreter. The first user begins a session; the
last one to leave ends it: the modules that the session has tracked and the places it has added
are forgotten, so that the next session imports user modules from scratch.
-/

namespace FieldMesh

namespace Coupling

/-- Joins the session, or begins one. -/
def acquire (c : Coupling) : Coupling :=
  let begun :=
    if c.lease.users = 0 then
      { c with lease.generation := c.lease.generation + 1 }.emit .info
        s!"python runtime session {c.lease.generation + 1} started"
    else c
  let joined := { begun with lease.users := begun.lease.users + 1 }
  joined.emit .debug s!"python runtime acquired, {joined.lease.users} live users"

/-- Removes the first occurrence of each of some places. -/
def removePlaces (searchPath places : List String) : List String :=
  places.foldl (fun path place => path.erase place) searchPath

/-- Forgets what the session has brought in. -/
def reset (c : Coupling) : Coupling :=
  { c with
    interpreter := { (c.interpreter.unload c.lease.tracked).collect with
      barren := []
      searchPath := removePlaces c.interpreter.searchPath c.lease.searchPaths }
    lease := { c.lease with searchPaths := [], tracked := [] } }

def isInitialized (c : Coupling) : Bool := 0 < c.lease.users

/-- Leaves the session, and ends it if nobody else uses it. -/
def release (c : Coupling) : Coupling :=
  let left := { c with lease.users := c.lease.users - 1 }
  let told := left.emit .debug s!"python runtime released, {left.lease.users} live users"
  if 0 < told.lease.users then told
  else told.reset.emit .info s!"python runtime session {told.lease.generation} torn down"

def addPlace (c : Coupling) (place : String) : Coupling :=
  if c.interpreter.searchPath.contains place then c
  else { c with
    interpreter.searchPath := c.interpreter.searchPath ++ [place]
    lease.searchPaths := c.lease.searchPaths ++ [place] }

def liesIn (directory text : String) : Bool :=
  directory == Disk.top || (directory.splitOn "/").isPrefixOf (text.splitOn "/")

/-- The modules that are new since some names were loaded: the module itself and what was
loaded from its directory. -/
def newModules (c : Coupling) (before : List String) (directory module : String) : List String :=
  (c.interpreter.modules.filter fun l =>
    !before.contains l.name && (l.name == module || l.file.any (liesIn directory))).map (·.name)

def addName (names : List String) (name : String) : List String :=
  if names.contains name then names else names ++ [name]

def track (c : Coupling) (names : List String) : Coupling :=
  { c with lease.tracked := names.foldl addName c.lease.tracked }

end Coupling

end FieldMesh

import FieldMesh.Script.Disk

/-! # The interpreter

The state of the interpreter of user modules: the places it searches, the modules it has
loaded, the objects they hold and the memory that has been lent to them. An export is open as
long as some live window shares it; live are the arguments of the running function, what a
module keeps, what has been stored for good, and what lies in cycles until garbage is collected.
-/

namespace FieldMesh

/-- Where lent values lie: in a field of a mesh, or in a block of their own once the field has
been cut off, or out of reach once nothing can ask for them. -/
inductive Memory where
  | lent (mesh : MeshKey) (position : Nat)
  | detached (block : Nat)
  | unreachable
deriving DecidableEq, Inhabited, Repr

/-- An object that exports lent memory. -/
structure Exporter where
  memory : Memory
  /-- The length of the memory in bytes. -/
  length : Nat
  layout : Layout
  writable : Bool
  revoked : Bool
deriving Inhabited

/-- Where the parts of a module are searched. -/
inductive Parts where
  /-- In the directory of its file. -/
  | beside (directory : String)
  /-- In the directories that make it up, which were found in some places in some session. -/
  | gathered (directories places : List String) (session : Nat)
deriving DecidableEq, Inhabited, Repr

def Parts.directories : Parts → List String
  | beside directory => [directory]
  | gathered directories .. => directories

structure Loaded where
  name : String
  file : Option String
  parts : Option Parts
  code : Code
  kept : List Object
  counters : List (String × Nat)
  /-- The names under which the module has other modules, which are parts of it; a function of
  the file is out of reach behind a part of its name. -/
  inner : List String
deriving Inhabited

namespace Loaded

/-- A module as it is when its file begins to run. -/
def fresh (name : String) (file : Option String) (parts : Option Parts) (code : Code) : Loaded :=
  ⟨name, file, parts, code, [], [], []⟩

def attach (l : Loaded) (part : String) : Loaded := { l with inner := part :: l.inner }

/-- The functions of the file replace the parts of their names that were there before. -/
def define (l : Loaded) : Loaded :=
  { l with inner := l.inner.filter fun part => !l.code.defined.contains part }

/-- Something that the file defines under a name, if no part stands before it. -/
def reach {α : Type} (l : Loaded) (name : String) (function : Option α) : Option α :=
  if l.inner.contains name then none else function

def perform (l : Loaded) : Option (List Float → List Object → Program Unit) :=
  l.reach Code.performHook l.code.perform

def vertex (l : Loaded) : Option (VertexId → List Float → Value → Value → Program Value) :=
  l.reach Code.vertexHook l.code.vertex

def post (l : Loaded) : Option (Program Unit) := l.reach Code.postHook l.code.post

def asarray (l : Loaded) : Except Exn (Object → Program Object) :=
  if l.inner.contains Code.arrayHook then
    .error (.of "TypeError" "'module' object is not callable")
  else
    match l.code.asarray with
    | some asarray => .ok asarray
    | none =>
      .error (.of "AttributeError" s!"module '{l.name}' has no attribute '{Code.arrayHook}'")

end Loaded

structure Interpreter where
  disk : Disk
  searchPath : List String
  /-- The places that were no directories when they were searched first. They are not looked at
  again before the session has ended. -/
  barren : List String
  modules : List Loaded
  exporters : List Exporter
  /-- How many holds have been handed out. -/
  holds : Nat
  lists : List (List Value)
  blocks : List (List Float)
  /-- The arguments of the running function. -/
  frame : List Object
  /-- Objects in cycles that nothing else refers to. -/
  garbage : List Object
  /-- Objects that are never let go. -/
  stored : List Object
deriving Inhabited

namespace Object

def window? : Object → Option Window
  | window w => some w
  | _ => none

def kind : Object → String
  | list _ => "list"
  | window _ => "memoryview"
  | exporter _ => "mesh_coupling.NativeBuffer"

end Object

namespace Interpreter

def start (disk : Disk) : Interpreter := ⟨disk, [], [], [], [], 0, [], [], [], [], []⟩

/-- All objects that are alive. -/
def live (s : Interpreter) : List Object :=
  s.frame ++ s.garbage ++ s.stored ++ s.modules.flatMap (·.kept)

def openHolds (s : Interpreter) (exporter : Nat) : List Nat :=
  ((s.live.filterMap Object.window?).filter (·.exporter == exporter)).map (·.hold) |>.eraseDups

/-- How many exports of an exporter are open. -/
def exports (s : Interpreter) (exporter : Nat) : Nat := (s.openHolds exporter).length

def collect (s : Interpreter) : Interpreter := { s with garbage := [] }

def module? (s : Interpreter) (name : String) : Option Loaded :=
  s.modules.find? (·.name == name)

def isLoaded (s : Interpreter) (name : String) : Bool := s.modules.any (·.name == name)

def modifyModule (s : Interpreter) (name : String) (f : Loaded → Loaded) : Interpreter :=
  { s with modules := s.modules.map fun l => if l.name == name then f l else l }

def unload (s : Interpreter) (names : List String) : Interpreter :=
  { s with modules := s.modules.filter fun l => !names.contains l.name }

/-- Takes up a loaded module under a name that is free. -/
def enter (s : Interpreter) (l : Loaded) : Interpreter := { s with modules := s.modules ++ [l] }

def fertile (s : Interpreter) (places : List String) : List String :=
  places.filter fun place => !s.barren.contains place

def search (s : Interpreter) (name : String) (places : List String) : Disk.Found × List String :=
  s.disk.search name (s.fertile places)

/-- Remembers which of the places that a search went through are no directories. -/
def remember (s : Interpreter) (name : String) (places : List String) : Interpreter :=
  { s with barren :=
      s.barren ++ (s.disk.passed name (s.fertile places)).filter fun place =>
        !s.disk.isPlace place }

def newList (s : Interpreter) (items : List Value) : Object × Interpreter :=
  (.list s.lists.length, { s with lists := s.lists ++ [items] })

def items (s : Interpreter) (ref : Nat) : List Value := s.lists[ref]?.getD []

def setItems (s : Interpreter) (ref : Nat) (items : List Value) : Interpreter :=
  { s with lists := s.lists.set ref items }

/-- An exporter of memory that holds so many bytes, in rows of some components. -/
def newExporter (s : Interpreter) (memory : Memory) (length components : Nat)
    (writable : Bool) : Nat × Interpreter :=
  (s.exporters.length,
    { s with
      exporters :=
        s.exporters ++ [⟨memory, length, .ofBytes length components, writable, false⟩] })

/-- Ends the time in which an exporter grants requests. -/
def revoke (s : Interpreter) (exporter : Nat) : Interpreter :=
  { s with exporters := s.exporters.modify exporter fun e => { e with revoked := true } }

/-- Puts the memory of those exporters out of reach that grant nothing and have no open exports:
no window of them is left, and none can be made. -/
def retire (s : Interpreter) : Interpreter :=
  { s with exporters := s.exporters.mapIdx fun id e =>
      if e.revoked && s.exports id == 0 then { e with memory := .unreachable } else e }

/-- A window with an export of its own. -/
def newWindow (s : Interpreter) (exporter : Nat) (layout : Layout) : Object × Interpreter :=
  (.window ⟨exporter, s.holds, layout⟩, { s with holds := s.holds + 1 })

def count (s : Interpreter) (name counter : String) : Nat × Interpreter :=
  let n := ((s.module? name).bind (·.counters.lookup counter)).getD 0 + 1
  (n, s.modifyModule name fun l =>
    { l with counters := (counter, n) :: l.counters.filter fun c => c.1 != counter })

/-- The names of the loaded modules whose files lie below the root, sorted. -/
def fileModules (s : Interpreter) : List String :=
  ((s.modules.filter fun l => l.file.any s.disk.holds).map (·.name)).mergeSort

def searchPathBelowRoot (s : Interpreter) : List String := s.searchPath.filter s.disk.holds

end Interpreter

end FieldMesh

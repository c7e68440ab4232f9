import FieldMesh.Mesh.Basic
import FieldMesh.Script.Interpreter

/-! # Couplings

A coupling is what all actions share. Meshes are shared: an action names its mesh by a key and
borrows it while it works on it. The coupling holds the meshes with the state of their borrows,
the log, what actions have noted, and the interpreter of user modules with the lease on it.
-/

namespace FieldMesh

/-- How a mesh is in use. -/
inductive Borrow where
  | free
  | shared
  | exclusive
deriving DecidableEq, Inhabited, Repr

/-- A mesh that is shared. -/
structure Cell where
  mesh : Mesh
  borrow : Borrow
deriving Inhabited

inductive Level where
  | error
  | warn
  | info
  | debug
  | trace
deriving DecidableEq, Inhabited, Repr

structure LogRecord where
  level : Level
  text : String
deriving DecidableEq, Inhabited, Repr

/-- What an action notes while it runs. -/
inductive Note where
  /-- A native action ran for the given time, on so many vertices, with these fields. -/
  | ran (name : String) (call vertices : Nat) (source target : Option String)
  /-- A user module wrote a record. -/
  | traced (record : Json)
deriving Inhabited

/-- Who uses the interpreter, and what the present session has to undo at its end. -/
structure Lease where
  users : Nat
  /-- How many sessions have begun. -/
  generation : Nat
  searchPaths : List String
  tracked : List String
deriving DecidableEq, Inhabited, Repr

/-- All that actions share. -/
structure Coupling where
  cells : List Cell
  log : List LogRecord
  notes : List Note
  interpreter : Interpreter
  lease : Lease
deriving Inhabited

namespace Coupling

def start (disk : Disk) : Coupling := ⟨[], [], [], .start disk, ⟨0, 0, [], []⟩⟩

def emit (c : Coupling) (level : Level) (text : String) : Coupling :=
  { c with log := c.log ++ [⟨level, text⟩] }

def note (c : Coupling) (n : Note) : Coupling := { c with notes := c.notes ++ [n] }

def share (c : Coupling) (m : Mesh) : MeshKey × Coupling :=
  (⟨c.cells.length⟩, { c with cells := c.cells ++ [⟨m, .free⟩] })

def cell? (c : Coupling) (k : MeshKey) : Option Cell := c.cells[k.index]?

def mesh (c : Coupling) (k : MeshKey) : Mesh := ((c.cell? k).map (·.mesh)).getD default

def setMesh (c : Coupling) (k : MeshKey) (m : Mesh) : Coupling :=
  { c with cells := c.cells.modify k.index fun cell => { cell with mesh := m } }

def borrow (c : Coupling) (k : MeshKey) : Borrow := ((c.cell? k).map (·.borrow)).getD .free

def setBorrow (c : Coupling) (k : MeshKey) (b : Borrow) : Coupling :=
  { c with cells := c.cells.modify k.index fun cell => { cell with borrow := b } }

def setInterpreter (c : Coupling) (s : Interpreter) : Coupling := { c with interpreter := s }

@[simp] theorem mesh_setBorrow (c : Coupling) (k other : MeshKey) (b : Borrow) :
    (c.setBorrow k b).mesh other = c.mesh other := by
  unfold mesh cell? setBorrow
  rw [List.getElem?_modify]
  split <;> simp [Option.map_map, Function.comp_def]

@[simp] theorem borrow_setMesh (c : Coupling) (k other : MeshKey) (m : Mesh) :
    (c.setMesh k m).borrow other = c.borrow other := by
  unfold borrow cell? setMesh
  rw [List.getElem?_modify]
  split <;> simp [Option.map_map, Function.comp_def]

theorem mesh_setMesh_self {c : Coupling} {k : MeshKey} (h : k.index < c.cells.length) (m : Mesh) :
    (c.setMesh k m).mesh k = m := by
  unfold mesh cell? setMesh
  rw [List.getElem?_modify_eq]
  simp [h]

/-- A mesh that is not there is not replaced. -/
theorem mesh_setMesh_cases (c : Coupling) (k : MeshKey) (m : Mesh) :
    (c.setMesh k m).mesh k = m ∨ (c.setMesh k m).mesh k = c.mesh k := by
  by_cases h : k.index < c.cells.length
  · exact .inl (mesh_setMesh_self h m)
  · have hcells : (c.setMesh k m).cells = c.cells := List.modify_eq_self (Nat.not_lt.mp h)
    refine .inr ?_
    rw [mesh, mesh, cell?, cell?, hcells]

theorem mesh_setMesh_of_ne {c : Coupling} {k other : MeshKey} (h : other ≠ k) (m : Mesh) :
    (c.setMesh k m).mesh other = c.mesh other := by
  have hi : k.index ≠ other.index := fun e => h (by cases k; cases other; exact congrArg _ e.symm)
  unfold mesh cell? setMesh
  simp [hi]

end Coupling

end FieldMesh

import FieldMesh.Ident

/-! # What can go wrong on a mesh

A refused call names its cause and leaves the mesh alone. A fault ends the computation where
it stands: an offset left the range of lengths, a list of values grew beyond what can be stored,
an invariant was found broken after an edit, or a snapshot was asked for a corner it does not
have.
-/

namespace FieldMesh

/-- Why a mesh refuses a call, or which invariant it violates. -/
inductive MeshError where
  | dimensions (found : Nat)
  | coordinateCount (expected found : Nat)
  | unknownVertex (vertex : VertexId)
  | degenerate (vertex : VertexId)
  | unknownField (field : FieldId)
  | aliasedField (field : FieldId)
  | unknownFieldName (mesh name : String)
  | noComponents (name : String)
  | duplicateName (mesh name : String)
  | unknownGroup (mesh name : String)
  | fieldLength (name : String) (expected found : Nat)
  | duplicateVertex (vertex : VertexId)
  | staleSlot (vertex : VertexId)
deriving DecidableEq, Inhabited, Repr

def MeshError.message : MeshError → String
  | dimensions n => s!"mesh dimension must be 2 or 3, got {n}"
  | coordinateCount expected found =>
    s!"coordinate length mismatch: mesh has dimension {expected}, got {found} values"
  | unknownVertex v => s!"unknown vertex `{v}`"
  | degenerate v => s!"degenerate element: vertex `{v}` appears more than once"
  | unknownField d => s!"unknown data id `{d}`"
  | aliasedField d => s!"data `{d}` cannot be both source and target"
  | unknownFieldName mesh name => s!"mesh `{mesh}` has no data named `{name}`"
  | noComponents name => s!"data `{name}` must have at least one component per vertex"
  | duplicateName mesh name => s!"mesh `{mesh}` already has an entry named `{name}`"
  | unknownGroup mesh name => s!"mesh `{mesh}` has no group named `{name}`"
  | fieldLength name expected found =>
    s!"data `{name}` holds {found} values, expected {expected}"
  | duplicateVertex v => s!"duplicate vertex id `{v}`"
  | staleSlot v => s!"vertex index is stale for vertex `{v}`"

/-- Why a computation stops where it stands. -/
inductive Fault where
  | overflow
  | capacity
  | violated (context : String) (error : MeshError)
  | corner (index : Nat)
deriving DecidableEq, Inhabited, Repr

/-- The report of a violated invariant; other faults have none. -/
def Fault.report? : Fault → Option String
  | violated context error => some s!"[invariants] {context}: {error.message}"
  | _ => none

/-- A call that gave no answer was refused, or stopped at a fault. -/
inductive Failure (ε : Type) where
  | refused (error : ε)
  | fault (fault : Fault)
deriving DecidableEq, Inhabited, Repr

namespace Failure

def mapError {ε δ : Type} (f : ε → δ) : Failure ε → Failure δ
  | refused e => refused (f e)
  | fault c => fault c

@[simp] theorem mapError_refused {ε δ : Type} (f : ε → δ) (e : ε) :
    (refused e).mapError f = refused (f e) := rfl

@[simp] theorem mapError_fault {ε δ : Type} (f : ε → δ) (c : Fault) :
    (fault c : Failure ε).mapError f = fault c := rfl

end Failure

end FieldMesh

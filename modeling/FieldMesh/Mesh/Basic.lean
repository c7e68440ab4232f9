import FieldMesh.Mesh.Field
import FieldMesh.Mesh.Group
import Std.Data.ExtTreeMap

/-! # Meshes

A mesh owns its vertices in creation order, a slot for each live vertex id, the elements over
them, the fields of values at them and the named groups. This module holds the type and the
look-ups that leave it as it is.
-/

namespace FieldMesh

/-- Vertices, elements, fields and groups of one interface. -/
structure Mesh where
  name : String
  dimensions : Nat
  vertices : List Vertex
  slots : Std.ExtTreeMap VertexId Nat
  nextId : Nat
  edges : List Edge
  triangles : List Triangle
  fields : List Field
  groups : List Group
deriving Inhabited

namespace Mesh

def new? (name : String) (dimensions : Nat) : Except MeshError Mesh :=
  if dimensions = 2 ∨ dimensions = 3 then .ok ⟨name, dimensions, [], ∅, 0, [], [], [], []⟩
  else .error (.dimensions dimensions)

/-- The ids of the vertices in storage order. -/
def ids (m : Mesh) : List VertexId := m.vertices.map (·.id)

/-- Whether an id names a vertex that has not been removed. -/
def isLive (m : Mesh) (v : VertexId) : Bool := m.slots.contains v

/-- The position of a vertex, which is also its row in every field. -/
def slot? (m : Mesh) (v : VertexId) : Option Nat := m.slots[v]?

def vertex? (m : Mesh) (v : VertexId) : Option Vertex := m.slots[v]?.bind (m.vertices[·]?)

/-- A position of the mesh's own dimension. -/
def coords (m : Mesh) (components : List Float) : Except MeshError Coords :=
  if components.length = m.dimensions then
    match Coords.ofList? components with
    | some c => .ok c
    | none => .error (.coordinateCount m.dimensions components.length)
  else .error (.coordinateCount m.dimensions components.length)

/-- Corners are checked from left to right: each has to be live and new. -/
def checkCorners (m : Mesh) : List VertexId → List VertexId → Except MeshError Unit
  | _, [] => .ok ()
  | seen, v :: vs =>
    if m.isLive v then
      if seen.contains v then .error (.degenerate v) else m.checkCorners (seen ++ [v]) vs
    else .error (.unknownVertex v)

/-- The field at the position that an id names. -/
def field (m : Mesh) (d : FieldId) : Except MeshError Field :=
  match m.fields[d.raw]? with
  | some f => .ok f
  | none => .error (.unknownField d)

/-- The id stored in the first field of a name. -/
def fieldNamed (m : Mesh) (name : String) : Except MeshError FieldId :=
  match m.fields.find? (·.name == name) with
  | some f => .ok f.id
  | none => .error (.unknownFieldName m.name name)

def groupNamed? (m : Mesh) (name : String) : Option Group := m.groups.find? (·.name == name)

/-- Whether a group of this name could not be told apart from the mesh or another group. -/
def hasEntry (m : Mesh) (name : String) : Bool :=
  name == m.name || m.groups.any (·.name == name)

def setFieldValues (m : Mesh) (position : Nat) (values : List Float) : Mesh :=
  { m with fields := m.fields.modify position fun f => { f with values } }

@[simp] theorem field_eq_ok_iff {m : Mesh} {d : FieldId} {f : Field} :
    m.field d = .ok f ↔ m.fields[d.raw]? = some f := by
  unfold field
  split <;> simp_all

end Mesh

end FieldMesh

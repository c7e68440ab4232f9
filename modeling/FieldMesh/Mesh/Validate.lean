import FieldMesh.Mesh.Basic

/-! # Invariants

`Mesh.validate` looks at every part of a mesh in a fixed order and names the first thing that
is wrong: ids that repeat or whose slot is stale, corners and group members that are no
vertices, and fields whose length does not fit the vertices.
-/

namespace FieldMesh

namespace Mesh

/-- Vertices are checked in order: the id is new, its slot is its position, and it has been
handed out. -/
def checkVertices (m : Mesh) : List VertexId → List (Vertex × Nat) → Except MeshError Unit
  | _, [] => .ok ()
  | seen, (v, position) :: rest =>
    if seen.contains v.id then .error (.duplicateVertex v.id)
    else if m.slots[v.id]? ≠ some position ∨ m.nextId ≤ v.id.raw then .error (.staleSlot v.id)
    else m.checkVertices (v.id :: seen) rest

/-- No slot is left over for an id that is no vertex. -/
def checkSlots (m : Mesh) : Except MeshError Unit :=
  if m.slots.size = m.vertices.length then .ok ()
  else
    match m.slots.keys.find? (fun v => !m.ids.contains v) with
    | some v => .error (.staleSlot v)
    | none => .ok ()

/-- The first of some ids that is no vertex is the error. -/
def checkListed (m : Mesh) (vs : List VertexId) : Except MeshError Unit :=
  match vs.find? (fun v => !m.ids.contains v) with
  | some v => .error (.unknownVertex v)
  | none => .ok ()

/-- The corners of all elements, edges first. -/
def allCorners (m : Mesh) : List VertexId :=
  m.edges.flatMap Edge.corners ++ m.triangles.flatMap Triangle.corners

/-- An allocated field covers every vertex and any other field is empty. -/
def checkLength (m : Mesh) (f : Field) : Except (Failure MeshError) Unit :=
  match if f.allocated then Length.mul? m.vertices.length f.components else some 0 with
  | none => .error (.fault .overflow)
  | some expected =>
    if f.values.length = expected then .ok ()
    else .error (.refused (.fieldLength f.name expected f.values.length))

/-- Names the first violated invariant. -/
def validate (m : Mesh) : Except (Failure MeshError) Unit := do
  (m.checkVertices [] m.vertices.zipIdx).mapError .refused
  m.checkSlots.mapError .refused
  (m.checkListed m.allCorners).mapError .refused
  m.fields.forM m.checkLength
  (m.groups.forM fun g => m.checkListed g.selection).mapError .refused

/-- Stops with a report if an invariant is violated. -/
def assert (m : Mesh) (context : String) : Except (Failure MeshError) Unit :=
  match m.validate with
  | .ok () => .ok ()
  | .error (.refused e) => .error (.fault (.violated context e))
  | .error (.fault c) => .error (.fault c)

end Mesh

end FieldMesh

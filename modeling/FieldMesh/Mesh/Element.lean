import FieldMesh.Coords
import FieldMesh.Ident

/-! # Vertices, edges and triangles

An edge and a triangle store the ids of their corners in order; where a corner lies is looked
up in the mesh.
-/

namespace FieldMesh

structure Vertex where
  id : VertexId
  coords : Coords
deriving Inhabited

structure Edge where
  first : VertexId
  second : VertexId
deriving DecidableEq, Inhabited, Repr

structure Triangle where
  first : VertexId
  second : VertexId
  third : VertexId
deriving DecidableEq, Inhabited, Repr

namespace Edge

def corners (e : Edge) : List VertexId := [e.first, e.second]

def touches (e : Edge) (v : VertexId) : Bool := e.corners.contains v

def corner? (e : Edge) (i : Nat) : Option VertexId := e.corners[i]?

end Edge

namespace Triangle

def corners (t : Triangle) : List VertexId := [t.first, t.second, t.third]

def touches (t : Triangle) (v : VertexId) : Bool := t.corners.contains v

def corner? (t : Triangle) (i : Nat) : Option VertexId := t.corners[i]?

end Triangle

end FieldMesh

import FieldMesh.Mesh.Element
import Std.Data.ExtTreeSet

/-! # Groups

A group selects vertices of a mesh, in an order of its own, and keeps the positions of the
edges and triangles whose corners are all selected. Positions are added as elements are
created and counted anew when vertices are removed.
-/

namespace FieldMesh

/-- The positions, in ascending order, of the entries with a property. -/
def positionsOf {α : Type} (p : α → Bool) (xs : List α) : List Nat :=
  xs.zipIdx.filterMap fun (x, i) => if p x then some i else none

/-- A named selection of vertices with the elements it covers. -/
structure Group where
  name : String
  selection : List VertexId
  members : Std.ExtTreeSet VertexId
  edges : List Nat
  triangles : List Nat
deriving Inhabited

namespace Group

def ofSelection (name : String) (selection : List VertexId) : Group :=
  ⟨name, selection, Std.ExtTreeSet.ofList selection, [], []⟩

def contains (g : Group) (v : VertexId) : Bool := g.members.contains v

def covers (g : Group) (corners : List VertexId) : Bool := corners.all g.contains

/-- Takes in a new edge of the mesh if its corners are selected. -/
def offerEdge (g : Group) (position : Nat) (e : Edge) : Group :=
  if g.covers e.corners then { g with edges := g.edges ++ [position] } else g

def offerTriangle (g : Group) (position : Nat) (t : Triangle) : Group :=
  if g.covers t.corners then { g with triangles := g.triangles ++ [position] } else g

/-- Keeps the live part of the selection and counts the covered elements anew. -/
def refilter (g : Group) (live : VertexId → Bool) (edges : List Edge)
    (triangles : List Triangle) : Group :=
  let kept := ofSelection g.name (g.selection.filter live)
  { kept with
    edges := positionsOf (fun e => kept.covers e.corners) edges
    triangles := positionsOf (fun t => kept.covers t.corners) triangles }

@[simp] theorem name_refilter (g : Group) (live : VertexId → Bool) (edges : List Edge)
    (triangles : List Triangle) : (g.refilter live edges triangles).name = g.name := rfl

@[simp] theorem selection_refilter (g : Group) (live : VertexId → Bool) (edges : List Edge)
    (triangles : List Triangle) :
    (g.refilter live edges triangles).selection = g.selection.filter live := rfl

end Group

end FieldMesh

import FieldMesh.Snapshot

/-! # Vertex areas

In the plane every edge gives half its length to each of its corners; in space every triangle
gives a third of its area to each of its corners. The shares of a vertex are summed in storage
order.
-/

namespace FieldMesh

namespace Snapshot

/-- What the element gives to each of its corners. -/
def share : Snapshot → Float
  | vertex _ => 0.0
  | edge a b => edgeLength a.coords b.coords / 2.0
  | triangle a b c => triangleArea a.coords b.coords c.coords / 3.0

end Snapshot

namespace Mesh

/-- The kind of elements that give shares in a mesh of this dimension. -/
def shareKind (m : Mesh) : Kind := if m.dimensions = 2 then .edge else .triangle

def addShare (m : Mesh) (share : Float) (sums : List Float) (v : VertexId) : List Float :=
  match m.slots[v]? with
  | none => sums
  | some slot => sums.modify slot (· + share)

def addShares (m : Mesh) (sums : List Float) (s : Snapshot) : List Float :=
  s.corners.foldl (fun sums c => m.addShare s.share sums c.id) sums

/-- The sum of shares of every vertex, by slot. -/
def vertexAreas (m : Mesh) : List Float :=
  (m.whole.snapshots m.shareKind).foldl m.addShares (List.replicate m.vertices.length 0.0)

end Mesh

end FieldMesh

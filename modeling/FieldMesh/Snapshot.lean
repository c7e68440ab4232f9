import FieldMesh.View

/-! # Snapshots

A snapshot is the value of an element at the time it was read: the ids of its corners and
where they lay. An element of which some corner cannot be found has no snapshot.
-/

namespace FieldMesh

/-- A corner as it was read. -/
structure Corner where
  id : VertexId
  coords : Coords
deriving Inhabited

inductive Snapshot where
  | vertex (v : Corner)
  | edge (a b : Corner)
  | triangle (a b c : Corner)
deriving Inhabited

namespace Snapshot

/-- The corners in order; a vertex is its own corner. -/
def corners : Snapshot → List Corner
  | vertex v => [v]
  | edge a b => [a, b]
  | triangle a b c => [a, b, c]

/-- The corner of an index; a vertex has one corner, whatever the index. -/
def corner (s : Snapshot) (index : Nat) : Except Fault Corner :=
  match s with
  | vertex v => .ok v
  | _ =>
    match s.corners[index]? with
    | some c => .ok c
    | none => .error (.corner index)

end Snapshot

def edgeLength (a b : Coords) : Float := a.distance b

/-- The area of a triangle: half the length of the cross product of two of its sides. -/
def triangleArea (a b c : Coords) : Float :=
  let (x₀, y₀, z₀) := a.padded
  let (x₁, y₁, z₁) := b.padded
  let (x₂, y₂, z₂) := c.padded
  let (ux, uy, uz) := (x₁ - x₀, y₁ - y₀, z₁ - z₀)
  let (vx, vy, vz) := (x₂ - x₀, y₂ - y₀, z₂ - z₀)
  let (nx, ny, nz) := (uy * vz - uz * vy, uz * vx - ux * vz, ux * vy - uy * vx)
  0.5 * (0.0 + nx * nx + ny * ny + nz * nz).sqrt

namespace View

def corner? (w : View) (v : VertexId) : Option Corner :=
  (w.mesh.vertex? v).map fun found => ⟨v, found.coords⟩

def fetch (w : View) (k : Kind) (position : Nat) : Option Snapshot :=
  match k with
  | .vertex => (w.vertexAt position).map fun v => .vertex ⟨v.id, v.coords⟩
  | .edge => do
    let e ← w.edgeAt position
    return .edge (← w.corner? e.first) (← w.corner? e.second)
  | .triangle => do
    let t ← w.triangleAt position
    return .triangle (← w.corner? t.first) (← w.corner? t.second) (← w.corner? t.third)

/-- The snapshots from a position on, up to the first that is missing. -/
def fetchFrom (w : View) (k : Kind) (position : Nat) : Nat → List Snapshot
  | 0 => []
  | n + 1 =>
    match w.fetch k position with
    | none => []
    | some s => s :: w.fetchFrom k (position + 1) n

/-- The snapshots of a kind in order, up to the first that is missing. -/
def snapshots (w : View) (k : Kind) : List Snapshot := w.fetchFrom k 0 (w.count k)

end View

end FieldMesh

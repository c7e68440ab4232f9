import FieldMesh.Mesh.Basic
import FieldMesh.Text.Quoted

/-! # Views

A view is what a reader sees of a mesh: all of it, or one of its groups. A handle adds which
mesh of those that exist it is a view of, so that handles can be compared.
-/

namespace FieldMesh

/-- A group of a mesh with its position among the groups. -/
structure Subset where
  position : Nat
  group : Group
deriving Inhabited

/-- The whole of a mesh, or one group of it. -/
structure View where
  mesh : Mesh
  subset : Option Subset
deriving Inhabited

inductive Kind where
  | vertex
  | edge
  | triangle
deriving DecidableEq, Inhabited, Repr

namespace View

/-- The name of the group, or else of the mesh. -/
def name (w : View) : String :=
  match w.subset with
  | some s => s.group.name
  | none => w.mesh.name

def isWhole (w : View) : Bool := w.subset.isNone

def count (w : View) : Kind → Nat
  | .vertex =>
    match w.subset with
    | some s => s.group.selection.length
    | none => w.mesh.vertices.length
  | .edge =>
    match w.subset with
    | some s => s.group.edges.length
    | none => w.mesh.edges.length
  | .triangle =>
    match w.subset with
    | some s => s.group.triangles.length
    | none => w.mesh.triangles.length

def vertexAt (w : View) (position : Nat) : Option Vertex :=
  match w.subset with
  | some s => s.group.selection[position]?.bind w.mesh.vertex?
  | none => w.mesh.vertices[position]?

def edgeAt (w : View) (position : Nat) : Option Edge :=
  match w.subset with
  | some s => s.group.edges[position]?.bind (w.mesh.edges[·]?)
  | none => w.mesh.edges[position]?

def triangleAt (w : View) (position : Nat) : Option Triangle :=
  match w.subset with
  | some s => s.group.triangles[position]?.bind (w.mesh.triangles[·]?)
  | none => w.mesh.triangles[position]?

end View

namespace Mesh

def whole (m : Mesh) : View := ⟨m, none⟩

/-- The view of a named group; the name of the mesh names the whole of it. -/
def view (m : Mesh) (name : String) : Except MeshError View :=
  if name = m.name then .ok m.whole
  else
    match m.groups.findIdx? (·.name == name) with
    | none => .error (.unknownGroup m.name name)
    | some position =>
      match m.groups[position]? with
      | none => .error (.unknownGroup m.name name)
      | some group => .ok ⟨m, some ⟨position, group⟩⟩

end Mesh

/-- A view together with the mesh it belongs to. -/
structure Handle where
  owner : MeshKey
  view : View
deriving Inhabited

namespace Handle

/-- Two handles show the same part of the same mesh. -/
def same (a b : Handle) : Bool :=
  a.owner == b.owner &&
    a.view.subset.map (·.position) == b.view.subset.map (·.position)

def kindText (h : Handle) (k : Kind) : String :=
  s!"Handle \x7b group: {Quoted.quote h.view.name}, size: {h.view.count k} \x7d"

def text (h : Handle) : String :=
  s!"MeshHandle \x7b vertices: {h.kindText .vertex}, edges: {h.kindText .edge}, " ++
    s!"triangles: {h.kindText .triangle} \x7d"

theorem same_iff {a b : Handle} :
    a.same b = true ↔ a.owner = b.owner ∧
      a.view.subset.map (·.position) = b.view.subset.map (·.position) := by
  simp [same]

end Handle

end FieldMesh

/-! # Identifiers

Vertices, fields and meshes are named by numbers, handed out in increasing order. Vertex ids
are compared by their numbers.
-/

namespace FieldMesh

/-- Names one vertex of a mesh for as long as the mesh lives. -/
structure VertexId where
  raw : Nat
deriving DecidableEq, Inhabited, Repr

/-- Names one field of a mesh: the position at which it was declared. -/
structure FieldId where
  raw : Nat
deriving DecidableEq, Inhabited, Repr

/-- Names one mesh among those that exist together. -/
structure MeshKey where
  index : Nat
deriving DecidableEq, Inhabited, Repr

namespace VertexId

instance : Ord VertexId := ⟨compareOn raw⟩

instance : Std.TransOrd VertexId := inferInstanceAs (Std.TransCmp (compareOn raw))

instance : Std.LawfulEqOrd VertexId where
  eq_of_compare {a b} h := by
    cases a
    cases b
    exact congrArg VertexId.mk (Std.LawfulEqOrd.eq_of_compare (α := Nat) h)

theorem compare_eq_iff {a b : VertexId} : compare a b = .eq ↔ a = b :=
  Std.LawfulEqOrd.compare_eq_iff_eq

instance : ToString VertexId := ⟨fun v => toString v.raw⟩

def tagged (v : VertexId) : String := s!"VertexId({v.raw})"

end VertexId

namespace FieldId

instance : ToString FieldId := ⟨fun d => toString d.raw⟩

def tagged (d : FieldId) : String := s!"DataId({d.raw})"

end FieldId

end FieldMesh

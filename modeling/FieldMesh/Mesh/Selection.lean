import FieldMesh.Mesh.Basic

/-! # Fields of an action

An action names a source and a target by id. Both must cover every vertex and they must
differ; then the fields are picked out of the list by the ids that are stored in them, the
last one of an id winning and the target going first.
-/

namespace FieldMesh

/-- A field together with its position in the mesh. -/
structure Placed where
  position : Nat
  field : Field
deriving Inhabited

structure Selection where
  source : Option Placed
  target : Option Placed
deriving Inhabited

namespace Mesh

/-- A requested field is known and covers every vertex. -/
def checkCoverage (m : Mesh) (d : FieldId) : Except (Failure MeshError) Unit :=
  match m.field d with
  | .error e => .error (.refused e)
  | .ok f =>
    match Length.mul? m.vertices.length f.components with
    | none => .error (.fault .overflow)
    | some expected =>
      if f.values.length = expected then .ok ()
      else .error (.refused (.fieldLength f.name expected f.values.length))

/-- Takes a field as the target or else as the source if it carries the requested id. -/
def pick (source target : Option FieldId) (chosen : Selection) (p : Field × Nat) : Selection :=
  if some p.1.id = target then { chosen with target := some ⟨p.2, p.1⟩ }
  else if some p.1.id = source then { chosen with source := some ⟨p.2, p.1⟩ }
  else chosen

def picked (m : Mesh) (source target : Option FieldId) : Selection :=
  m.fields.zipIdx.foldl (pick source target) ⟨none, none⟩

/-- The fields of an action, once both are known to cover every vertex and to differ. -/
def select (m : Mesh) (source target : Option FieldId) :
    Except (Failure MeshError) Selection := do
  source.forM m.checkCoverage
  target.forM m.checkCoverage
  match source, target with
  | some s, some t =>
    if s = t then .error (.refused (.aliasedField s)) else .ok (m.picked source target)
  | _, _ => .ok (m.picked source target)

end Mesh

end FieldMesh

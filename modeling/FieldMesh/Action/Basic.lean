import FieldMesh.Action.Error
import FieldMesh.Coupling
import FieldMesh.Decimal.Layout
import FieldMesh.Mesh.Selection
import FieldMesh.Timing

/-! # Actions on shared meshes

An action is something with a timing and a name that can be performed in a step; performing it
gives an answer and leaves an action and the state around it. An action on a mesh needs the
mesh for itself.
-/

namespace FieldMesh

/-- What performing an action gives and leaves. -/
structure Performed (α ω : Type) where
  answer : Except (Failure ActionError) Unit
  action : α
  state : ω

/-- Actions of some type that work on some state. -/
class Performable (α : Type) (ω : outParam Type) where
  timing : α → Timing
  name : α → String
  perform : α → Step → ω → Performed α ω
  emit : ω → LogRecord → ω

namespace Coupling

def checkFree (c : Coupling) (k : MeshKey) : Except ActionError Unit :=
  match c.borrow k with
  | .free => .ok ()
  | .shared => .error (.busy (c.mesh k).name)
  | .exclusive => .error (.busy "<mutably borrowed>")

def emitAll (c : Coupling) (records : List LogRecord) : Coupling :=
  { c with log := c.log ++ records }

/-- Replaces a mesh that is free by what a transformation makes of it. -/
def transform (c : Coupling) (k : MeshKey)
    (f : Mesh → Except (Failure ActionError) (Mesh × List LogRecord)) :
    Except (Failure ActionError) Unit × Coupling :=
  match c.checkFree k with
  | .error e => (.error (.refused e), c)
  | .ok () =>
    match f (c.mesh k) with
    | .error e => (.error e, c)
    | .ok (m, records) => (.ok (), (c.setMesh k m).emitAll records)

theorem checkFree_eq_ok_iff {c : Coupling} {k : MeshKey} :
    c.checkFree k = .ok () ↔ c.borrow k = .free := by
  unfold checkFree
  split <;> simp_all

end Coupling

end FieldMesh

import FieldMesh.Action.Scale
import FieldMesh.Action.Scripted

/-! # The kinds of actions

Scaling by a factor of the step, scaling by areas, native operations and functions of user
modules, as one type of actions on a coupling.
-/

namespace FieldMesh

inductive Action where
  | scaleByDt (timing : Timing) (mesh : MeshKey) (source target : FieldId) (scaling : DtScaling)
  | scaleByArea (timing : Timing) (mesh : MeshKey) (target : FieldId) (scaling : AreaScaling)
  | native (action : NativeAction)
  | scripted (action : ScriptedAction)

namespace Action

def timing : Action → Timing
  | scaleByDt timing .. => timing
  | scaleByArea timing .. => timing
  | native a => a.timing
  | scripted a => a.timing

/-- The name of an action in the log and in error texts. -/
def name : Action → String
  | scaleByDt .. => "scale-by-dt"
  | scaleByArea .. => "scale-by-area"
  | native a => a.name
  | scripted a => a.module

def mesh : Action → MeshKey
  | scaleByDt _ mesh .. => mesh
  | scaleByArea _ mesh .. => mesh
  | native a => a.mesh
  | scripted a => a.mesh

def perform (a : Action) (step : Step) (c : Coupling) : Performed Action Coupling :=
  match a with
  | scaleByDt _ k source target scaling =>
    let (answer, c) := c.transform k (·.scaleByDt source target scaling step)
    ⟨answer, a, c⟩
  | scaleByArea _ k target scaling =>
    let (answer, c) := c.transform k (·.scaleByArea target scaling)
    ⟨answer, a, c⟩
  | native b =>
    let done := b.perform step c
    ⟨done.answer, native done.action, done.state⟩
  | scripted b =>
    let done := b.perform step c
    ⟨done.answer, scripted done.action, done.state⟩

def release (a : Action) (c : Coupling) : Coupling :=
  match a with
  | scripted b => b.release c
  | _ => c

instance : Performable Action Coupling where
  timing := timing
  name := name
  perform := perform
  emit c record := c.emitAll [record]

end Action

end FieldMesh

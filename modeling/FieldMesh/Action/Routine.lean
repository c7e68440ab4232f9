import FieldMesh.Action.Native
import FieldMesh.Action.Scale

/-! # Routines

A small language of operations for native actions. A routine first notes that it runs and then
follows its instructions until one fails; it sees the values of its fields as flat lists, an
absent field being empty, and what pairs values up stops at the shorter list.
-/

namespace FieldMesh

/-- One instruction of a routine. -/
inductive Instruction where
  | fill (x : Float)
  /-- Sets every value to the time of the step. -/
  | fillTime
  /-- Sets every value to the number of the call. -/
  | fillCount
  | addSource
  /-- Sets the target to the source plus the time of the step. -/
  | shiftSource
  /-- Writes the four times of the step to the front of the target. -/
  | writeStep
  /-- Writes the first coordinate of every vertex to the front of its row. -/
  | writeCoords
  | fail (message : String)
  | raise (error : ActionError)
  /-- Tries to scale the first field of the same mesh by the areas. -/
  | reenter

namespace Instruction

def coordsOver (components : Nat) (vertices : List Vertex) (values : List Float) : List Float :=
  values.mapIdx fun i v =>
    if i % components = 0 then
      match vertices[i / components]? with
      | some vertex => vertex.coords.x
      | none => v
    else v

def follow (i : Instruction) (call : Call) (target : List Float) (c : Coupling) : Returned :=
  let source := (call.source.map (·.values)).getD []
  let keep (values : List Float) : Returned := ⟨.ok (), values, c⟩
  match i with
  | fill x => keep (target.map fun _ => x)
  | fillTime => keep (target.map fun _ => call.step.time)
  | fillCount => keep (target.map fun _ => call.number.toFloat)
  | addSource => keep (overwrite target (List.zipWith (· + ·) target source))
  | shiftSource => keep (overwrite target (source.map (· + call.step.time)))
  | writeStep =>
    keep (overwrite target
      [call.step.time, call.step.length, call.step.computed, call.step.window])
  | writeCoords =>
    keep (coordsOver ((call.target.map (·.components)).getD 1) call.vertices target)
  | fail message => ⟨.error (.refused (.native call.action message)), target, c⟩
  | raise e => ⟨.error (.refused e), target, c⟩
  | reenter =>
    let (answer, c) := c.transform call.mesh (·.scaleByArea ⟨0⟩ .multiplyingByArea)
    ⟨answer, target, c⟩

end Instruction

/-- The instructions of an operation. -/
abbrev Routine := List Instruction

namespace Routine

def followAll (call : Call) : Routine → List Float → Coupling → Returned
  | [], target, c => ⟨.ok (), target, c⟩
  | i :: rest, target, c =>
    let returned := i.follow call target c
    match returned.answer with
    | .ok () => followAll call rest returned.target returned.coupling
    | .error e => ⟨.error e, returned.target, returned.coupling⟩

def operation (r : Routine) : Operation := fun call c =>
  r.followAll call ((call.target.map (·.values)).getD [])
    (c.note (.ran call.action call.number call.vertices.length
      (call.source.map (·.name)) (call.target.map (·.name))))

end Routine

end FieldMesh

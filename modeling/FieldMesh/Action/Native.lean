import FieldMesh.Action.Basic

/-! # Native actions

A native action runs any operation on the fields it was configured with. While the operation
runs, the mesh is borrowed exclusively; afterwards the target holds the values that the
operation left, also if it failed.
-/

namespace FieldMesh

/-- What an operation is given. -/
structure Call where
  action : String
  /-- How often the action has run, this time included. -/
  number : Nat
  step : Step
  mesh : MeshKey
  vertices : List Vertex
  source : Option Field
  target : Option Field

/-- What an operation leaves. -/
structure Returned where
  answer : Except (Failure ActionError) Unit
  target : List Float
  coupling : Coupling

/-- What a native action does. -/
abbrev Operation := Call → Coupling → Returned

structure NativeAction where
  name : String
  timing : Timing
  mesh : MeshKey
  source : Option FieldId
  target : Option FieldId
  /-- How often the operation has run. -/
  calls : Nat
  operation : Operation

namespace NativeAction

def call (a : NativeAction) (m : Mesh) (fields : Selection) (step : Step) : Call :=
  ⟨a.name, a.calls + 1, step, a.mesh, m.vertices, fields.source.map (·.field),
    fields.target.map (·.field)⟩

/-- Writes back what an operation left of the target. -/
def writeBack (c : Coupling) (k : MeshKey) (target : Option Placed) (values : List Float) :
    Coupling :=
  match target with
  | none => c
  | some t =>
    c.setMesh k ((c.mesh k).setFieldValues t.position (overwrite t.field.values values))

def perform (a : NativeAction) (step : Step) (c : Coupling) : Performed NativeAction Coupling :=
  match c.checkFree a.mesh with
  | .error e => ⟨.error (.refused e), a, c⟩
  | .ok () =>
    match (c.mesh a.mesh).select a.source a.target with
    | .error e => ⟨.error (e.mapError .mesh), a, c⟩
    | .ok fields =>
      let returned := a.operation (a.call (c.mesh a.mesh) fields step)
        (c.setBorrow a.mesh .exclusive)
      ⟨returned.answer, { a with calls := a.calls + 1 },
        writeBack (returned.coupling.setBorrow a.mesh .free) a.mesh fields.target
          returned.target⟩

def optionText : Option FieldId → String
  | some d => s!"Some({d.tagged})"
  | none => "None"

def text (a : NativeAction) : String :=
  s!"ClosureAction \x7b name: {Quoted.quote a.name}, timing: {a.timing.tag}, " ++
    s!"source: {optionText a.source}, target: {optionText a.target}, .. \x7d"

end NativeAction

end FieldMesh

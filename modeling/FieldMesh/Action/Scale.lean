import FieldMesh.Action.Basic
import FieldMesh.Scaling
import FieldMesh.VertexArea

/-! # Scaling fields

Two transformations of a mesh that change the values of one field. The first writes a source
field times a factor of the step into the target; the second multiplies the values at every
vertex by the area around it, or divides them where that area is positive.
-/

namespace FieldMesh

/-- A list of values with the products of a factor and other values at its front. -/
def scaledOver (factor : Float) (source target : List Float) : List Float :=
  List.zipWith (fun _ s => factor * s) target source ++ target.drop source.length

theorem length_scaledOver (factor : Float) (source target : List Float) :
    (scaledOver factor source target).length = target.length := by
  simp [scaledOver]
  omega

/-- The values of rows, each scaled by the area of its vertex; rows without an area stay. -/
def scaledRows (s : AreaScaling) (areas : List Float) (components : Nat) (values : List Float) :
    List Float :=
  values.mapIdx fun i v =>
    match areas[i / components]? with
    | some area => s.scale area v
    | none => v

/-- How many rows have an area by which they are not scaled. -/
def unscaledRows (s : AreaScaling) (areas : List Float) (components : Nat)
    (values : List Float) : Nat :=
  (areas.take ((values.length + components - 1) / components)).countP fun area => !s.applies area

namespace Mesh

/-- Why two fields cannot be source and target of one scaling. -/
def componentsDiffer (source target : Field) : String :=
  s!"source `{source.name}` has {source.components} components, " ++
    s!"target `{target.name}` has {target.components}"

def scaledRecord (factor : Float) (source target : Field) : LogRecord :=
  ⟨.trace, s!"scale-by-dt: {target.name} = {NumberLayout.plain.write factor} * {source.name}"⟩

/-- Writes the source times the factor of the step into the target. -/
def scaleByDt (m : Mesh) (source target : FieldId) (scaling : DtScaling) (step : Step) :
    Except (Failure ActionError) (Mesh × List LogRecord) :=
  match m.select (some source) (some target) with
  | .error e => .error (e.mapError .mesh)
  | .ok ⟨some s, some t⟩ =>
    if s.field.components = t.field.components then
      let factor := scaling.factor step
      .ok (m.setFieldValues t.position (scaledOver factor s.field.values t.field.values),
        [scaledRecord factor s.field t.field])
    else .error (.refused (.incompatible "scale-by-dt" (componentsDiffer s.field t.field)))
  | .ok _ => .ok (m, [])

def unscaledRecords (f : Field) (count : Nat) : List LogRecord :=
  if 0 < count then
    [⟨.warn, s!"scale-by-area: {count} vertices of `{f.name}` " ++
      "have no adjacent area, left unscaled"⟩]
  else []

/-- Scales the target by the areas around the vertices. -/
def scaleByArea (m : Mesh) (target : FieldId) (scaling : AreaScaling) :
    Except (Failure ActionError) (Mesh × List LogRecord) :=
  match m.select none (some target) with
  | .error e => .error (e.mapError .mesh)
  | .ok ⟨_, some t⟩ =>
    let areas := m.vertexAreas
    let f := t.field
    .ok (m.setFieldValues t.position (scaledRows scaling areas f.components f.values),
      unscaledRecords f (unscaledRows scaling areas f.components f.values))
  | .ok _ => .ok (m, [])

end Mesh

end FieldMesh

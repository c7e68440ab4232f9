import FieldMesh.Timing

/-! # Scalings

The factors by which fields are scaled: ratios of the times of a step, or the areas around the
vertices.
-/

namespace FieldMesh

/-- A factor that depends on the step. -/
inductive DtScaling where
  | byComputedDtRatio
  | byDt
  | byComputedDtPartRatio
deriving DecidableEq, Inhabited, Repr

namespace DtScaling

def factor (s : DtScaling) (step : Step) : Float :=
  match s with
  | byComputedDtRatio => step.length / step.window
  | byDt => step.length
  | byComputedDtPartRatio => step.computed / step.window

def text : DtScaling → String
  | byComputedDtRatio => "by-computed-dt-ratio"
  | byDt => "by-dt"
  | byComputedDtPartRatio => "by-computed-dt-part-ratio"

def tag : DtScaling → String
  | byComputedDtRatio => "ByComputedDtRatio"
  | byDt => "ByDt"
  | byComputedDtPartRatio => "ByComputedDtPartRatio"

instance : Named DtScaling where
  all := [byComputedDtRatio, byDt, byComputedDtPartRatio]
  name := text

theorem ofName?_text (s : DtScaling) : Named.ofName? s.text = some s := by cases s <;> decide

end DtScaling

/-- How a value is scaled by the area around its vertex. -/
inductive AreaScaling where
  | dividingByArea
  | multiplyingByArea
deriving DecidableEq, Inhabited, Repr

namespace AreaScaling

/-- Whether values at a vertex of this area are scaled; only a positive area divides. -/
def applies (s : AreaScaling) (area : Float) : Bool :=
  match s with
  | multiplyingByArea => true
  | dividingByArea => area > 0.0

def scale (s : AreaScaling) (area value : Float) : Float :=
  match s with
  | multiplyingByArea => value * area
  | dividingByArea => if area > 0.0 then value / area else value

def text : AreaScaling → String
  | dividingByArea => "dividing-by-area"
  | multiplyingByArea => "multiplying-by-area"

def tag : AreaScaling → String
  | dividingByArea => "DividingByArea"
  | multiplyingByArea => "MultiplyingByArea"

instance : Named AreaScaling where
  all := [dividingByArea, multiplyingByArea]
  name := text

theorem ofName?_text (s : AreaScaling) : Named.ofName? s.text = some s := by cases s <;> decide

end AreaScaling

end FieldMesh

import FieldMesh.Coords
import FieldMesh.Decimal.Layout

/-! # The text of a position -/

namespace FieldMesh

namespace Coords

def text (c : Coords) : String :=
  "[" ++ ", ".intercalate (c.toList.map NumberLayout.listed.write) ++ "]"

end Coords

end FieldMesh

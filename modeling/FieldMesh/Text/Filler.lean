import FieldMesh.Text.CharSet

/-! # Fillers

The letters that stand in for a missing part of a syllable. They count as letters and show
nothing.
-/

namespace FieldMesh

namespace CharSet

/-- The letters that show nothing. -/
def fillers : CharSet := [(0x115f, 0x1160), (0x3164, 0x3164), (0xffa0, 0xffa0)]

example : fillers.ascendsFrom 0 = true := by decide +kernel

end CharSet

end FieldMesh

import FieldMesh.Length
import FieldMesh.Mesh.Error

/-! # Fields

A field holds a fixed number of components per vertex in one flat list of values, row after
row in vertex order. A field is declared empty and sized when the mesh allocates it; from then
on it gains and loses rows with the vertices. Offsets into the list are lengths, and an
operation whose offset leaves that range is a fault, as is one that needs a list too long to be
stored.
-/

namespace FieldMesh

/-- Replaces the front of a list of values; surplus values are dropped. -/
def overwrite (old new : List Float) : List Float := new.take old.length ++ old.drop new.length

@[simp] theorem length_overwrite (old new : List Float) :
    (overwrite old new).length = old.length := by
  simp [overwrite]
  omega

theorem overwrite_of_length_eq {old new : List Float} (h : new.length = old.length) :
    overwrite old new = new := by
  simp [overwrite, ← h]

/-- The values of one quantity at every vertex. -/
structure Field where
  id : FieldId
  name : String
  components : Nat
  values : List Float
  allocated : Bool
deriving Inhabited

namespace Field

/-- A field that has been declared and holds nothing yet. -/
def declare (id : FieldId) (name : String) (components : Nat) : Field :=
  ⟨id, name, components, [], false⟩

/-- How many whole rows the values make. -/
def extent (f : Field) : Nat := f.values.length / f.components

/-- Where the row of a slot starts, if the values reach to its end. -/
def rowStart (f : Field) (slot : Nat) : Except Fault (Option Nat) :=
  match Length.mul? slot f.components with
  | none => .ok none
  | some start =>
    match Length.add? start f.components with
    | none => .error .overflow
    | some stop => .ok (if stop ≤ f.values.length then some start else none)

def row (f : Field) (slot : Nat) : Except Fault (Option (List Float)) :=
  (f.rowStart slot).map (Option.map fun start => (f.values.drop start).take f.components)

/-- Overwrites the front of the row of a slot, if there is one. -/
def setRow (f : Field) (slot : Nat) (new : List Float) : Except Fault (Option Field) :=
  (f.rowStart slot).map (Option.map fun start =>
    { f with values :=
        f.values.take start ++ overwrite ((f.values.drop start).take f.components) new ++
          f.values.drop (start + f.components) })

def setValues (f : Field) (new : List Float) : Field :=
  { f with values := overwrite f.values new }

/-- Sizes the field for a number of vertices: kept values stay, new ones are zero. -/
def resize (f : Field) (vertices : Nat) : Except Fault Field :=
  match Length.mul? vertices f.components with
  | none => .error .overflow
  | some size =>
    if Length.capacity < size then .error .capacity
    else .ok { f with
      values := f.values.take size ++ List.replicate (size - f.values.length) 0.0
      allocated := true }

/-- Drops the row of a slot if the values reach to its end. -/
def removeSlot (f : Field) (slot : Nat) : Except Fault Field :=
  match Length.mul? slot f.components with
  | none => .error .overflow
  | some start =>
    match Length.add? start f.components with
    | none => .error .overflow
    | some stop => .ok (if stop ≤ f.values.length then
        { f with values := f.values.take start ++ f.values.drop stop } else f)

/-- Edits fields in order; a fault leaves the field it arose in and all later ones as they were. -/
def editEach (edit : Field → Except Fault Field) : List Field → Option Fault × List Field
  | [] => (none, [])
  | f :: fs =>
    match edit f with
    | .error fault => (some fault, f :: fs)
    | .ok g => ((editEach edit fs).1, g :: (editEach edit fs).2)

@[simp] theorem length_setValues (f : Field) (new : List Float) :
    (f.setValues new).values.length = f.values.length := by simp [setValues]

end Field

end FieldMesh

import FieldMesh.Script.Value

/-! # Layouts of lent memory

A lent field is an array of numbers of eight bytes: one index per vertex if the field has one
component, else an index for the vertex and one for the component. Strides are counted in
bytes, so that the memory is the list of values of the field in its own order.
-/

namespace FieldMesh

/-- Where the entries of an array lie in memory. -/
structure Layout where
  /-- The byte at which the array starts. -/
  start : Nat
  shape : List Nat
  /-- The distance in bytes from one entry to the next, for every index. -/
  strides : List Nat
deriving DecidableEq, Inhabited, Repr

namespace Layout

def itemSize : Nat := 8

/-- The layout of a field of some components whose values fill some bytes. -/
def ofBytes (bytes components : Nat) : Layout :=
  let rows := bytes / itemSize / components
  if components = 1 then ⟨0, [rows], [itemSize]⟩
  else ⟨0, [rows, components], [components * itemSize, itemSize]⟩

def rank (l : Layout) : Nat := l.shape.length

/-- The byte at which an entry starts. -/
def offset (l : Layout) (index : List Nat) : Nat :=
  l.start + (List.zipWith (· * ·) index l.strides).foldr (· + ·) 0

def position (l : Layout) (index : List Nat) : Nat := l.offset index / itemSize

/-- The array without its first row. -/
def tail (l : Layout) : Layout :=
  match l.shape, l.strides with
  | rows :: shape, stride :: _ =>
    ⟨l.start + min 1 rows * stride, (rows - 1) :: shape, l.strides⟩
  | _, _ => l

/-- The place of an index that may count from the end. -/
def place (size : Nat) (i : Int) : Option Nat :=
  if 0 ≤ i then if i < size then some i.toNat else none
  else if -(size : Int) ≤ i then some (i + size).toNat
  else none

/-- An integer that can be an index at all. -/
def checkIndex (i : Int) : Except Exn Unit :=
  if -0x8000000000000000 ≤ i ∧ i < 0x8000000000000000 then .ok ()
  else .error (.of "IndexError" "cannot fit 'int' into an index-sized integer")

/-- The places of some indices, one for every size; `dimension` counts the sizes from one. -/
def places : Nat → List Nat → List Int → Except Exn (List Nat)
  | dimension, n :: shape, i :: index => do
    checkIndex i
    match place n i with
    | none => .error (.of "IndexError" s!"index out of bounds on dimension {dimension}")
    | some p => return p :: (← places (dimension + 1) shape index)
  | _, _, _ => .ok []

def indices : List Nat → List (List Nat)
  | [] => [[]]
  | n :: shape => (List.range n).flatMap fun i => (indices shape).map (i :: ·)

end Layout

end FieldMesh

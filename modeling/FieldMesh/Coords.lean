/-! # Coordinates

A vertex lies in the plane or in space. Distances run over the components that both points
have; areas see a plane point as a point of space at height zero.
-/

namespace FieldMesh

/-- The position of a vertex. -/
inductive Coords where
  | plane (x y : Float)
  | space (x y z : Float)
deriving Inhabited

namespace Coords

/-- Two or three components make a position. -/
def ofList? : List Float → Option Coords
  | [x, y] => some (plane x y)
  | [x, y, z] => some (space x y z)
  | _ => none

def toList : Coords → List Float
  | plane x y => [x, y]
  | space x y z => [x, y, z]

def dimensions : Coords → Nat
  | plane .. => 2
  | space .. => 3

def x : Coords → Float
  | plane x _ => x
  | space x _ _ => x

/-- The position in space, at height zero if it lies in the plane. -/
def padded : Coords → Float × Float × Float
  | plane x y => (x, y, 0.0)
  | space x y z => (x, y, z)

/-- Positions agree if they have the same kind and numerically equal components. -/
protected def beq : Coords → Coords → Bool
  | plane a b, plane c d => a == c && b == d
  | space a b c, space d e f => a == d && b == e && c == f
  | _, _ => false

instance : BEq Coords := ⟨Coords.beq⟩

def squares (a b : Coords) : List Float :=
  List.zipWith (fun s t => (s - t) * (s - t)) a.toList b.toList

/-- The distance over the components that both points have. -/
def distance (a b : Coords) : Float := ((squares a b).foldl (· + ·) 0.0).sqrt

@[simp] theorem length_toList (c : Coords) : c.toList.length = c.dimensions := by cases c <;> rfl

theorem toList_of_ofList? {xs : List Float} {c : Coords} (h : ofList? xs = some c) :
    c.toList = xs := by
  match xs, h with
  | [_, _], h => cases h; rfl
  | [_, _, _], h => cases h; rfl

theorem ofList?_eq_none_iff {xs : List Float} :
    ofList? xs = none ↔ xs.length ≠ 2 ∧ xs.length ≠ 3 := by
  match xs with
  | [] => simp [ofList?]
  | [_] => simp [ofList?]
  | [_, _] => simp [ofList?]
  | [_, _, _] => simp [ofList?]
  | _ :: _ :: _ :: _ :: _ => simp [ofList?]

end Coords

end FieldMesh

import FieldMesh.Snapshot

/-! # Cursors

A cursor stands at a position of a handle, at most at its end, or is singular and stands
nowhere. Cursors are values: moving one leaves its copies where they are.
-/

namespace FieldMesh

/-- A position of a handle; `size` is the number of elements counted when it was made. -/
structure Place where
  handle : Handle
  position : Nat
  size : Nat
deriving Inhabited

structure Cursor (k : Kind) where
  place : Option Place
deriving Inhabited

namespace Cursor

variable {k : Kind}

/-- A cursor that stands nowhere. -/
def singular : Cursor k := ⟨none⟩

/-- A cursor at a position, or at the end if the position lies behind it. -/
def standing (h : Handle) (position : Nat) : Cursor k :=
  ⟨some ⟨h, min position (h.view.count k), h.view.count k⟩⟩

def first (h : Handle) : Cursor k := standing h 0

/-- A cursor behind the last element. -/
def last (h : Handle) : Cursor k := standing h (h.view.count k)

def isSingular (c : Cursor k) : Bool := c.place.isNone

def position? (c : Cursor k) : Option Nat := c.place.map (·.position)

/-- Whether no element is left; a singular cursor has none. -/
def isEnd (c : Cursor k) : Bool := c.place.all fun p => p.size ≤ p.position

def remaining (c : Cursor k) : Nat := (c.place.map fun p => p.size - p.position).getD 0

def get? (c : Cursor k) : Option Snapshot :=
  c.place.bind fun p => p.handle.view.fetch k p.position

/-- The cursor one element further, but never behind the end. -/
def advance (c : Cursor k) : Cursor k :=
  ⟨c.place.map fun p =>
    { p with position := if p.position < p.size then p.position + 1 else p.position }⟩

def advanceBy (c : Cursor k) : Nat → Cursor k
  | 0 => c
  | n + 1 => c.advance.advanceBy n

/-- Takes the element at the cursor and moves on; without one the cursor stays. -/
def next (c : Cursor k) : Option Snapshot × Cursor k :=
  match c.get? with
  | none => (none, c)
  | some s => (some s, c.advance)

/-- Takes elements until some number has been skipped, then one more. -/
def nth (c : Cursor k) : Nat → Option Snapshot × Cursor k
  | 0 => c.next
  | n + 1 =>
    match c.next with
    | (none, d) => (none, d)
    | (some _, d) => d.nth n

/-- Takes a number of elements one after the other, stopping early if there are none left. -/
def takeNext (c : Cursor k) : Nat → List Snapshot × Cursor k
  | 0 => ([], c)
  | n + 1 =>
    match c.next with
    | (none, d) => ([], d)
    | (some s, d) => (s :: (d.takeNext n).1, (d.takeNext n).2)

def exhaust (c : Cursor k) : List Snapshot × Cursor k := c.takeNext c.remaining

/-- Two cursors are equal if both are singular, or stand at one position of the same view. -/
protected def beq (a b : Cursor k) : Bool :=
  match a.place, b.place with
  | none, none => true
  | some p, some q => p.position == q.position && p.handle.same q.handle
  | _, _ => false

instance : BEq (Cursor k) := ⟨Cursor.beq⟩

def text (c : Cursor k) : String :=
  match c.place with
  | none => "Cursor(singular)"
  | some p =>
    s!"Cursor(GroupCursor \x7b group: {Quoted.quote p.handle.view.name}, " ++
      s!"pos: {p.position}, len: {p.size} \x7d)"

@[simp] theorem advance_singular : (singular : Cursor k).advance = singular := rfl

end Cursor

end FieldMesh

import FieldMesh.Cursor

/-! # Named cursors

Scripts work on cursors under names. A command makes a cursor, moves one, or asks one; it
answers, and leaves the other names as they are.
-/

namespace FieldMesh

/-- A command on named cursors; `into` is the name that is given a cursor. -/
inductive CursorCommand where
  | first (into : String) (h : Handle)
  | last (into : String) (h : Handle)
  | singular (into : String)
  | clone (into source : String)
  /-- Moves the source and gives the cursor from before the move to a name. -/
  | postIncrement (into source : String)
  | advance (name : String) (n : Nat)
  | get (name : String)
  | next (name : String)
  | nth (name : String) (n : Nat)
  | rest (name : String)
  | compare (a b : String)
  | inspect (name : String)
  | corner (name : String) (index : Nat)
  | text (name : String)

inductive CursorAnswer where
  /-- The name has no cursor. -/
  | unset
  | done
  | position (p : Option Nat)
  /-- The positions of a new cursor and of the one it was made from. -/
  | positions (p q : Option Nat)
  | item (s : Option Snapshot)
  | items (ss : List Snapshot)
  | equal (b : Bool)
  | state (p : Option Nat) (atEnd singular : Bool) (remaining : Nat)
  | corner (c : Except Fault (Option Corner))
  | text (s : String)

structure Registers (k : Kind) where
  cursor? : String → Option (Cursor k)

namespace Registers

variable {k : Kind}

def empty : Registers k := ⟨fun _ => none⟩

def set (r : Registers k) (name : String) (c : Cursor k) : Registers k :=
  ⟨fun other => if other = name then some c else r.cursor? other⟩

def on (r : Registers k) (name : String) (f : Cursor k → CursorAnswer × Registers k) :
    CursorAnswer × Registers k :=
  match r.cursor? name with
  | some c => f c
  | none => (.unset, r)

def step (r : Registers k) : CursorCommand → CursorAnswer × Registers k
  | .first into h => (.position (Cursor.first h : Cursor k).position?, r.set into (.first h))
  | .last into h => (.position (Cursor.last h : Cursor k).position?, r.set into (.last h))
  | .singular into => (.done, r.set into .singular)
  | .clone into source => r.on source fun c => (.positions c.position? c.position?, r.set into c)
  | .postIncrement into source => r.on source fun c =>
    (.positions c.position? c.advance.position?, (r.set source c.advance).set into c)
  | .advance name n => r.on name fun c =>
    (.position (c.advanceBy n).position?, r.set name (c.advanceBy n))
  | .get name => r.on name fun c => (.item c.get?, r)
  | .next name => r.on name fun c => (.item c.next.1, r.set name c.next.2)
  | .nth name n => r.on name fun c => (.item (c.nth n).1, r.set name (c.nth n).2)
  | .rest name => r.on name fun c => (.items c.exhaust.1, r.set name c.exhaust.2)
  | .compare a b => r.on a fun c => r.on b fun d => (.equal (c == d), r)
  | .inspect name => r.on name fun c =>
    (.state c.position? c.isEnd c.isSingular c.remaining, r)
  | .corner name index => r.on name fun c =>
    (.corner ((c.get?.map (·.corner index)).elim (.ok none) (Except.map some)), r)
  | .text name => r.on name fun c => (.text c.text, r)

/-- Follows commands in order; answers one answer per command. -/
def run (r : Registers k) : List CursorCommand → List CursorAnswer × Registers k
  | [] => ([], r)
  | command :: rest =>
    let (answer, next) := r.step command
    let (answers, last) := next.run rest
    (answer :: answers, last)

theorem cursor?_set_of_ne (r : Registers k) {name other : String} (c : Cursor k)
    (h : other ≠ name) : (r.set name c).cursor? other = r.cursor? other := by simp [set, h]

end Registers

end FieldMesh

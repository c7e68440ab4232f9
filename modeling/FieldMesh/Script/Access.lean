import FieldMesh.Coupling

/-! # Access to objects

How objects are read and written, and what each operation refuses. A window reaches the memory
that its exporter stands for: the field it was lent from, as long as that has not been cut off.
-/

namespace FieldMesh

namespace Exn

def noAttribute (o : Object) (name : String) : Exn :=
  .of "AttributeError" s!"'{o.kind}' object has no attribute '{name}'"

def notSubscriptable (o : Object) : Exn :=
  .of "TypeError" s!"'{o.kind}' object is not subscriptable"

def notBytes (o : Object) : Exn :=
  .of "TypeError" s!"memoryview: a bytes-like object is required, not '{o.kind}'"

def notAnIndex (kind : String) : Exn :=
  .of "TypeError" s!"list indices must be integers or slices, not {kind}"

/-- An index of a window that is neither an integer nor a tuple. -/
def invalidKey : Exn := .of "TypeError" "memoryview: invalid slice key"

def tooManyIndices (rank given : Nat) : Exn :=
  .of "TypeError" s!"cannot index {rank}-dimension view with {given}-element tuple"

end Exn

namespace Value

/-- Takes a value as a number that fits into a window. -/
def toEntry (v : Value) : Except Exn Float :=
  match v with
  | float x => .ok x
  | bool b => .ok (ofBool b)
  | int i =>
    match ofInt? i with
    | some x => .ok x
    | Option.none => .error (.of "ValueError" "memoryview: invalid value for format 'd'")
  | _ => .error (.of "TypeError" "memoryview: invalid type for format 'd'")

end Value

namespace Layout

def readPlace (l : Layout) : Index → Except Exn (List Nat)
  | .one i => do
    checkIndex i
    if l.rank = 1 then places 1 l.shape [i]
    else .error (.of "NotImplementedError" "multi-dimensional sub-views are not implemented")
  | .tuple is =>
    if is.length < l.rank then
      .error (.of "NotImplementedError" "sub-views are not implemented")
    else if l.rank < is.length then .error (.tooManyIndices l.rank is.length)
    else places 1 l.shape is
  | .list => .error .invalidKey

def writePlace (l : Layout) : Index → Except Exn (List Nat)
  | .one i =>
    if 1 < l.rank then .error (.of "NotImplementedError" "sub-views are not implemented")
    else do
      checkIndex i
      places 1 l.shape [i]
  | x => l.readPlace x

end Layout

namespace Index

def itemPlace (size : Nat) (outside : String) : Index → Except Exn Nat
  | one i => do
    Layout.checkIndex i
    match Layout.place size i with
    | some p => return p
    | none => .error (.of "IndexError" outside)
  | tuple _ => .error (.notAnIndex "tuple")
  | list => .error (.notAnIndex "list")

end Index

namespace Coupling

def values (c : Coupling) : Memory → List Float
  | .lent k position => ((c.mesh k).fields[position]?.map (·.values)).getD []
  | .detached block => c.interpreter.blocks[block]?.getD []
  | .unreachable => []

def setValue (c : Coupling) (m : Memory) (position : Nat) (x : Float) : Coupling :=
  match m with
  | .lent k field =>
    c.setMesh k ((c.mesh k).setFieldValues field ((c.values m).set position x))
  | .detached block =>
    c.setInterpreter { c.interpreter with
      blocks := c.interpreter.blocks.modify block (·.set position x) }
  | .unreachable => c

def exporter (c : Coupling) (id : Nat) : Exporter := c.interpreter.exporters[id]?.getD default

def entry (c : Coupling) (w : Window) (index : List Nat) : Float :=
  (c.values (c.exporter w.exporter).memory)[w.layout.position index]?.getD 0.0

/-- The entries of a window below a part of an index, as nested lists. -/
def nested (c : Coupling) (w : Window) : List Nat → List Nat → Value
  | index, [] => .float (c.entry w index)
  | index, n :: shape => .list ((List.range n).map fun i => c.nested w (index ++ [i]) shape)

/-- The items of a value that is a list. -/
def listed : Value → List Value
  | .list items => items
  | v => [v]

def readItem (c : Coupling) (o : Object) (x : Index) : Except Exn Value :=
  match o with
  | .window w => do return .float (c.entry w (← w.layout.readPlace x))
  | .list ref => do
    let items := c.interpreter.items ref
    return items[← x.itemPlace items.length "list index out of range"]?.getD .none
  | .exporter _ => .error (.notSubscriptable o)

def writeItem (c : Coupling) (o : Object) (x : Index) (v : Value) : Except Exn Coupling :=
  match o with
  | .window w =>
    let e := c.exporter w.exporter
    if e.writable then do
      let index ← w.layout.writePlace x
      let number ← v.toEntry
      return c.setValue e.memory (w.layout.position index) number
    else .error (.of "TypeError" "cannot modify read-only memory")
  | .list ref => do
    let items := c.interpreter.items ref
    let place ← x.itemPlace items.length "list assignment index out of range"
    return c.setInterpreter (c.interpreter.setItems ref (items.set place v))
  | .exporter _ => do
    match x with
    | .one i => Layout.checkIndex i
    | _ => pure ()
    .error (.of "TypeError" s!"'{o.kind}' object does not support item assignment")

def append (c : Coupling) (o : Object) (v : Value) : Except Exn Coupling :=
  match o with
  | .list ref =>
    .ok (c.setInterpreter (c.interpreter.setItems ref (c.interpreter.items ref ++ [v])))
  | _ => .error (.noAttribute o "append")

/-- The length of the first dimension of an object. -/
def lengthOf (c : Coupling) : Object → Except Exn Nat
  | .window w => .ok (w.layout.shape.headD 0)
  | .list ref => .ok (c.interpreter.items ref).length
  | o => .error (.of "TypeError" s!"object of type '{o.kind}' has no len()")

def rankOf : Object → Except Exn Nat
  | .window w => .ok w.layout.rank
  | o => .error (.noAttribute o "ndim")

def shapeOf : Object → Except Exn (List Nat)
  | .window w => .ok w.layout.shape
  | o => .error (.noAttribute o "shape")

def contentsOf (c : Coupling) : Object → Except Exn (List Value)
  | .window w => .ok (listed (c.nested w [] w.layout.shape))
  | o => .error (.noAttribute o "tolist")

def describe (c : Coupling) : Object → Description
  | .window w =>
    .window (!(c.exporter w.exporter).writable) w.layout (c.nested w [] w.layout.shape)
  | .list ref => .list (c.interpreter.items ref)
  | .exporter _ => .exporter

def baseOf : Object → Except Exn Object
  | .window w => .ok (.exporter w.exporter)
  | o => .error (.noAttribute o "obj")

def exportsOf (c : Coupling) : Object → Except Exn Nat
  | .exporter id => .ok (c.interpreter.exports id)
  | o => .error (.noAttribute o "exports")

def asks (flags mask : Nat) : Bool := flags &&& mask == mask

def grant (c : Coupling) (id flags : Nat) (into : Bool) : Except Exn Grant :=
  let e := c.exporter id
  if !into then .error (.of "BufferError" "view is null")
  else if e.revoked then
    .error (.of "BufferError" "native buffer is only valid during the action call")
  else if asks flags 0x1 && !e.writable then
    .error (.of "BufferError" "source data is read-only")
  else if asks flags 0x58 && e.layout.rank == 2 && e.layout.shape.all (1 < ·) then
    .error (.of "BufferError" "native buffer is row-major")
  else
    let shaped := asks flags 0x8
    .ok {
      length := e.length
      readOnly := !e.writable
      rank := if shaped then e.layout.rank else 1
      format := if asks flags 0x4 then some "d" else none
      shape := if shaped then some e.layout.shape else none
      strides := if asks flags 0x18 then some e.layout.strides else none
      exports := c.interpreter.exports id + 1 }

/-- Requests memory from an object; of the flags only the last 32 bits count. -/
def requestFrom (c : Coupling) (flags : Int) (into : Bool) : Object → Except Exn Grant
  | .exporter id => c.grant id (flags.emod 0x100000000).toNat into
  | o => .error (.of "TypeError" s!"a bytes-like object is required, not '{o.kind}'")

/-- The request that a window makes. -/
def windowFlags : Nat := 0x11c

/-- A window of the memory of an object; a window of a window shares its hold. -/
def windowOf (c : Coupling) : Object → Except Exn (Object × Coupling)
  | .window w => .ok (.window w, c)
  | .exporter id => do
    let _ ← c.grant id windowFlags true
    let (o, s) := c.interpreter.newWindow id (c.exporter id).layout
    return (o, c.setInterpreter s)
  | o => .error (.notBytes o)

def tailOf (c : Coupling) : Object → Except Exn (Object × Coupling)
  | .window w => .ok (.window { w with layout := w.layout.tail }, c)
  | .list ref =>
    let (o, s) := c.interpreter.newList ((c.interpreter.items ref).drop 1)
    .ok (o, c.setInterpreter s)
  | o => .error (.notSubscriptable o)

def lastKept (c : Coupling) (module : String) : Except Exn Object :=
  match (c.interpreter.module? module).bind (·.kept.getLast?) with
  | some o => .ok o
  | none => .error (.of "IndexError" "list index out of range")

end Coupling

end FieldMesh

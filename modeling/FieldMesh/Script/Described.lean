import FieldMesh.Script.Program

/-! # Described modules

A module can be described instead of written: what it imports, what its functions do with the
fields that are lent to them, and what they return. A description has a program for each of its
functions, and each of them traces that it runs.
-/

namespace FieldMesh

/-- How a module holds on to a field beyond a call. -/
inductive Keeping where
  /-- It keeps the object itself. -/
  | same
  /-- It keeps a window of the object. -/
  | copy
  /-- It keeps everything but the first row. -/
  | slice
  /-- It keeps a window with an export of its own. -/
  | fresh
  /-- It keeps the exporter. -/
  | exporter
  /-- It keeps the values. -/
  | values
  /-- It leaves the object in a cycle that nothing else refers to. -/
  | cycle
deriving DecidableEq, Inhabited, Repr

/-- One thing that a described function does; fields are numbered as they are passed. -/
inductive Statement where
  /-- Follows statements and traces an exception that ends them. -/
  | attempt (body : List Statement)
  | get (field : Int) (x : Index)
  | set (field : Int) (x : Index) (v : Value)
  /-- Sets every entry. -/
  | fill (field : Int) (v : Value)
  /-- Sets every entry to an entry of another field times a factor, plus the time. -/
  | scale (target source : Int) (factor : Float)
  /-- Sets every component of a row to the entry of the row in another field plus its number. -/
  | spread (target source : Int)
  | append (field : Int) (v : Value)
  | showAll
  | raise (kind text : String)
  | exports (field : Int)
  | request (field : Int) (flags : Int) (into : Bool)
  | keep (field : Int) (how : Keeping)
  | drop
  | peek (x : Index)
  | poke (x : Index) (v : Value)
  | reexport
  | keptExports
  | unknown (name : String)
deriving Inhabited

/-- What a described function returns for a vertex. -/
inductive Reply where
  | nothing
  | value (v : Value)
  | coords
  /-- The value of the source times a factor. -/
  | source (factor : Value)
  /-- The value of the target times a factor. -/
  | target (factor : Value)
  | raise (kind text : String)
deriving Inhabited

/-- How a described module makes arrays. -/
inductive ArrayMaking where
  | wrap
  | raise
  /-- It raises in every call but the first. -/
  | raiseSecond
  /-- It stores a window for good first, and raises in every call but the first. -/
  | keep
deriving DecidableEq, Inhabited, Repr

/-- The statements of a function, all alike or chosen by the number of the call. -/
inductive Body where
  | always (statements : List Statement)
  | byCall (cases : List (Nat × List Statement)) (otherwise : List Statement)
deriving Inhabited

/-- A described module. -/
structure Described where
  /-- The name of the file if it cannot be read at all. -/
  unreadable : Option String
  imports : List String
  /-- The type and the text of the exception that the file raises. -/
  raises : Option (String × String)
  perform : Option Body
  vertex : Option (List (Nat × Reply) × Reply)
  post : Option Body
  arrays : Option ArrayMaking
deriving Inhabited

namespace Body

def statements : Body → Nat → List Statement
  | always body, _ => body
  | byCall cases otherwise, n => (cases.lookup n).getD otherwise

end Body

namespace Description

def record : Description → Json
  | list items => .obj [("list", .arr (Value.records items))]
  | window readOnly layout values =>
    .obj [("type", .str "memoryview"), ("shape", sizes layout.shape),
      ("strides", sizes layout.strides), ("format", .str "d"), ("readonly", .bool readOnly),
      ("values", values.record)]
  | exporter => .obj []
where
  sizes (ns : List Nat) : Json := .arr (ns.map fun n => .int (n : Nat))

end Description

namespace Grant

def record (g : Grant) : Json :=
  .obj [("len", .int g.length), ("itemsize", .int Layout.itemSize),
    ("readonly", .int (if g.readOnly then 1 else 0)),
    ("ndim", .int g.rank), ("format", (g.format.map Json.str).getD .null),
    ("shape", (g.shape.map Description.record.sizes).getD .null),
    ("strides", (g.strides.map Description.record.sizes).getD .null),
    ("exports", .int g.exports)]

end Grant

namespace Program

def trace (entries : List (String × Json)) : Program Unit := query (.trace (.obj entries))

/-- The object passed under a number, which may count from the end. -/
def field (fields : List Object) (i : Int) : Program Object :=
  match Layout.checkIndex i, (Layout.place fields.length i).bind (fields[·]?) with
  | .error e, _ => raise e
  | .ok (), some o => pure o
  | .ok (), none => raise (.of "IndexError" "tuple index out of range")

/-- The index of an entry: an integer if there is one dimension. -/
def indexOf : List Nat → Index
  | [i] => .one i
  | is => .tuple (is.map Int.ofNat)

/-- The indices of all entries of an object; its rank matters only if it is not empty. -/
def entries (o : Object) : Program (List Index) := do
  let n : Nat ← query (.length o)
  if n = 0 then return []
  let rank : Nat ← query (.rank o)
  let shape ← if rank = 1 then pure [n] else query (.shape o)
  return (Layout.indices shape).map indexOf

def describeAll : List Object → Program (List Json)
  | [] => pure []
  | o :: os => do
    let d ← query (.describe o)
    return d.record :: (← describeAll os)

/-- The record of an exception that was handled. -/
def caught (e : Exn) : List (String × Json) :=
  ("caught", .str e.kind) ::
    if e.explicit || e.kind == "BufferError" then [("text", .str e.text)] else []

end Program

namespace Keeping

def program (how : Keeping) (o : Object) : Program Unit := do
  match how with
  | same => Program.query (.keep o)
  | copy => Program.query (.keep (← Program.query (.window o)))
  | slice => Program.query (.keep (← Program.query (.tail o)))
  | fresh =>
    let e ← Program.query (.base o)
    Program.query (.keep (← Program.query (.window e)))
  | exporter => Program.query (.keep (← Program.query (.base o)))
  | values =>
    let items ← Program.query (.contents o)
    Program.query (.keep (← Program.query (.collect items)))
  | cycle => Program.query (.abandon o)

end Keeping

namespace Statement

open Program

/-- The size of the second dimension. -/
def columns (o : Object) : Program Nat := do
  let shape : List Nat ← query (.shape o)
  match shape[1]? with
  | some n => return n
  | none => Program.raise (.of "IndexError" "tuple index out of range")

def spreadOver (target source : Object) : Program Unit := do
  let rows : Nat ← query (.length target)
  forEach (fun r => do
    let n ← columns target
    forEach (fun c => do
      let v ← query (.item source (.one (r : Nat)))
      let sum ← ofExcept (v.shifted c.toFloat)
      query (.assign target (.tuple [(r : Nat), (c : Nat)]) (.float sum))) (List.range n))
    (List.range rows)

def scaleInto (time : Float) (target source : Object) (factor : Float) : Program Unit := do
  forEach (fun x => do
    let v ← query (.item source x)
    let product ← ofExcept (v.scaled factor)
    query (.assign target x (.float (product + time)))) (← entries target)

mutual

def program (time : Float) (fields : List Object) : Statement → Program Unit
  | attempt body => do
    match ← (programs time fields body).attempt with
    | .ok () => pure ()
    | .error e => if e.isHandled then trace (caught e) else Program.raise e
  | get i x => do
    let v ← query (.item (← field fields i) x)
    trace [("get", v.record)]
  | set i x v => do query (.assign (← field fields i) x v)
  | fill i v => do
    let o ← field fields i
    forEach (fun x => query (.assign o x v)) (← entries o)
  | scale target source factor => do
    scaleInto time (← field fields target) (← field fields source) factor
  | spread target source => do spreadOver (← field fields target) (← field fields source)
  | append i v => do query (.append (← field fields i) v)
  | showAll => do trace [("show", .arr (← describeAll fields))]
  | raise kind text => Program.raise (.raised kind text)
  | exports i => do
    let n : Nat ← query (.exports (← query (.base (← field fields i))))
    trace [("exports", .int n)]
  | request i flags into => do
    let g ← query (.request (← query (.base (← field fields i))) flags into)
    trace [("buffer", g.record)]
  | keep i how => do how.program (← field fields i)
  | drop => query .forget
  | peek x => do
    let v ← query (.item (← query .kept) x)
    trace [("peek", v.record)]
  | poke x v => do query (.assign (← query .kept) x v)
  | reexport => do
    let d ← query (.describe (← query (.window (← query .kept))))
    trace [("reexport", d.record)]
  | keptExports => do
    let n : Nat ← query (.exports (← query .kept))
    trace [("exports", .int n)]
  | unknown name => Program.raise (.of "RuntimeError" s!"unknown op {name}")

def programs (time : Float) (fields : List Object) : List Statement → Program Unit
  | [] => pure ()
  | s :: rest => do
    program time fields s
    programs time fields rest

end

end Statement

namespace Reply

/-- A value times a factor, or the components of a tuple times a factor. -/
def scaledValue (v factor : Value) : Except Exn Value :=
  match v with
  | .tuple items => return .tuple (← items.mapM fun item => item.times factor)
  | v => v.times factor

def program (coords : List Float) (source target : Value) : Reply → Program Value
  | nothing => pure .none
  | value v => pure v
  | Reply.coords => pure (.tuple (coords.map .float))
  | Reply.source factor => .ofExcept (scaledValue source factor)
  | Reply.target factor => .ofExcept (scaledValue target factor)
  | raise kind text => .raise (.raised kind text)

end Reply

namespace Described

open Program

def numbers (xs : List Float) : Json := .arr (xs.map .float)

def calls : String := "calls"

def arraysMade : String := "arrays"

/-- What the file does when it is imported. -/
def top (d : Described) : Program Unit := do
  match d.unreadable with
  | some file => Program.raise (.of "SyntaxError" s!"invalid syntax ({file}, line 1)")
  | none =>
    trace [("import", .str (← query .self))]
    forEach (fun name => query (.load name)) d.imports
    match d.raises with
    | some (kind, text) => Program.raise (.raised kind text)
    | none => pure ()

def performProgram (body : Body) (times : List Float) (fields : List Object) : Program Unit := do
  let n : Nat ← query (.count calls)
  let name ← query .self
  let looks ← describeAll fields
  trace [("hook", .str "performAction"), ("module", .str name), ("call", .int n),
    ("args", numbers times), ("views", .arr looks)]
  Statement.programs (times.headD 0.0) fields (body.statements n)

def vertexProgram (replies : List (Nat × Reply)) (otherwise : Reply) (id : VertexId)
    (coords : List Float) (source target : Value) : Program Value := do
  trace [("hook", .str "vertexCallback"), ("module", .str (← query .self)), ("id", .int id.raw),
    ("coords", numbers coords), ("source", source.record), ("target", target.record)]
  ((replies.lookup id.raw).getD otherwise).program coords source target

def postProgram (body : Body) : Program Unit := do
  trace [("hook", .str "postAction"), ("module", .str (← query .self))]
  Statement.programs 0.0 [] (body.statements 0)

def noArrays : Exn := .of "TypeError" "no arrays today"

def arrayProgram (how : ArrayMaking) (exporter : Object) : Program Object := do
  trace [("hook", .str "asarray")]
  let n : Nat ← query (.count arraysMade)
  match how with
  | .wrap => query (.window exporter)
  | .raise => Program.raise noArrays
  | .raiseSecond => if n = 1 then query (.window exporter) else Program.raise noArrays
  | .keep =>
    query (.store (← query (.window exporter)))
    if n = 1 then query (.window exporter) else Program.raise noArrays

def code (d : Described) : Code where
  top := d.top
  perform := d.perform.map performProgram
  vertex := d.vertex.map fun (replies, otherwise) => vertexProgram replies otherwise
  post := d.post.map postProgram
  asarray := d.arrays.map arrayProgram

end Described

end FieldMesh

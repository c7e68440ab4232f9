import FieldMesh.Action.Basic
import FieldMesh.Script.Session

/-! # Lending fields to user modules

While a function of a user module runs, the fields of its action are lent to it: the module
gets a window of the memory of a field that holds values, and a list for an empty one. When the
function is done, every loan is ended. A loan whose memory the module still refers to cannot be
ended cleanly; the field is then cut off, and what the module keeps sees the old values in a
block of their own.
-/

namespace FieldMesh

/-- How many bytes the values of a field fill. -/
def Field.bytes (f : Field) : Nat := f.values.length * Layout.itemSize

/-- What the module is given for a field. -/
inductive Loan where
  /-- An array of the memory behind an exporter. -/
  | array (exporter : Nat) (object : Object)
  /-- A list in place of a field without values. -/
  | copy (ref : Nat) (writable : Bool) (components : Nat)
deriving Inhabited

/-- A field on loan: its id and name as they are stored in it. -/
structure LentField where
  id : FieldId
  name : String
  loan : Loan
deriving Inhabited

/-- Why a loan could not be ended cleanly. -/
inductive LoanError where
  /-- The module keeps so many exports of the memory. -/
  | retained (count : Nat)
  | misfit (reason : String)
deriving DecidableEq, Inhabited, Repr

namespace LoanError

def message : LoanError → String
  | retained n => s!"the module kept {n} reference(s) to the array after the call"
  | misfit reason => reason

def isRetained : LoanError → Bool
  | retained _ => true
  | misfit _ => false

end LoanError

def Loan.object : Loan → Object
  | array _ o => o
  | copy ref .. => .list ref

namespace Coupling

/-- Holds an object as an argument of the running function. -/
def hold (c : Coupling) (o : Object) : Coupling :=
  c.setInterpreter { c.interpreter with frame := c.interpreter.frame ++ [o] }

def letGo (c : Coupling) (o : Object) : Coupling :=
  c.setInterpreter { c.interpreter with frame := c.interpreter.frame.erase o }

/-- Makes an array of an exporter: by the module that is at hand for it, or else a window. -/
def wrap (c : Coupling) (arrays : Option String) (exporter : Nat) :
    Except Exn Object × Coupling :=
  match arrays with
  | none => c.make (c.windowOf (.exporter exporter))
  | some module =>
    match c.interpreter.module? module with
    | none => (.error (notFound module), c)
    | some l =>
      match l.asarray with
      | .ok asarray => c.run module (asarray (.exporter exporter))
      | .error e => (.error e, c)

/-- Lends a field; on failure the exporter is revoked. -/
def lend (c : Coupling) (arrays : Option String) (k : MeshKey) (p : Placed) (writable : Bool) :
    Except String LentField × Coupling :=
  let f := p.field
  if f.values.isEmpty then
    let told := c.emit .debug "copying 0 values into python instead of aliasing them"
    let (o, s) := told.interpreter.newList []
    (.ok ⟨f.id, f.name, .copy c.interpreter.lists.length writable f.components⟩,
      (told.setInterpreter s).hold o)
  else
    let (exporter, s) :=
      c.interpreter.newExporter (.lent k p.position) f.bytes f.components writable
    match (c.setInterpreter s).wrap arrays exporter with
    | (.ok o, done) => (.ok ⟨f.id, f.name, .array exporter o⟩, done.hold o)
    | (.error e, failed) =>
      (.error s!"cannot wrap the buffer ({e.message})",
        failed.setInterpreter (failed.interpreter.revoke exporter))

/-- Takes the items of a list as the values of a field without values. -/
def takeBack (items : List Value) (components : Nat) : Except LoanError Unit := do
  let count ←
    if components = 1 then
      match items.mapM Value.toFloat with
      | .ok numbers => pure numbers.length
      | .error e => .error (.misfit s!"target list no longer holds floats ({e.message})")
    else
      match items.mapM Value.toFloats with
      | .ok rows =>
        match rows.find? (·.length ≠ components) with
        | some row =>
          .error (.misfit s!"target row has {row.length} components, expected {components}")
        | none => pure (rows.length * components)
      | .error e => .error (.misfit s!"target list no longer holds rows of floats ({e.message})")
  if count = 0 then return ()
  else .error (.misfit s!"target list holds {count} values, expected 0")

/-- Revokes an exporter and tells how many exports stay open; garbage is collected if any do. -/
def close (c : Coupling) (exporter : Nat) : Nat × Coupling :=
  let revoked := c.interpreter.revoke exporter
  let left := if 0 < revoked.exports exporter then revoked.collect else revoked
  (left.exports exporter, c.setInterpreter left)

def endLoan (c : Coupling) (loan : Loan) : Except LoanError Unit × Coupling :=
  let released := c.letGo loan.object
  match loan with
  | .array exporter _ =>
    let (left, closed) := released.close exporter
    (if left = 0 then .ok () else .error (.retained left), closed)
  | .copy ref writable components =>
    (if writable then takeBack (released.interpreter.items ref) components else .ok (), released)

def dropLoan (c : Coupling) (loan : Loan) : Coupling :=
  let released := c.letGo loan.object
  match loan with
  | .array exporter _ =>
    let revoked := released.setInterpreter (released.interpreter.revoke exporter)
    if 0 < revoked.interpreter.exports exporter then
      revoked.emit .error "aliased buffer dropped while python still references it"
    else revoked
  | .copy .. => released

/-- Ends loans in order; answers the errors with the fields they belong to. -/
def endLoans (c : Coupling) : List LentField → List (LentField × LoanError) × Coupling
  | [] => ([], c)
  | f :: fs =>
    let (ended, next) := c.endLoan f.loan
    let (errors, last) := next.endLoans fs
    match ended with
    | .ok () => (errors, last)
    | .error e => ((f, e) :: errors, last)

/-- Cuts a field off from the memory that has been lent: the field goes on with its values, and
the exporters of the old memory stand for a block with the same values. -/
def detach (c : Coupling) (k : MeshKey) (d : FieldId) : Coupling :=
  match (c.mesh k).field d with
  | .error _ => c
  | .ok f =>
    let s := c.interpreter
    c.setInterpreter { s with
      blocks := s.blocks ++ [f.values]
      exporters := s.exporters.map fun e =>
        if e.memory = .lent k d.raw then { e with memory := .detached s.blocks.length } else e }

end Coupling

end FieldMesh

import FieldMesh.Ident
import FieldMesh.Script.Layout

/-! # Programs of user modules

What a user module does is a tree: it ends with a result, or asks the interpreter one question
and goes on with the answer, which may be an exception. Nothing is assumed about the tree, so
that a statement about all programs is a statement about all user modules.
-/

namespace FieldMesh

/-- A view of lent memory. Windows of one `hold` share one export of the memory. -/
structure Window where
  exporter : Nat
  hold : Nat
  layout : Layout
deriving DecidableEq, Inhabited, Repr

/-- What a program can hold on to. -/
inductive Object where
  | list (ref : Nat)
  | window (w : Window)
  | exporter (id : Nat)
deriving DecidableEq, Inhabited, Repr

/-- What is put between brackets to reach an entry. -/
inductive Index where
  | one (i : Int)
  | tuple (is : List Int)
  | list
deriving DecidableEq, Inhabited, Repr

/-- What an object looks like. -/
inductive Description where
  | list (items : List Value)
  | window (readOnly : Bool) (layout : Layout) (values : Value)
  | exporter
deriving Inhabited

/-- A granted request for the memory of an exporter. -/
structure Grant where
  length : Nat
  readOnly : Bool
  rank : Nat
  format : Option String
  shape : Option (List Nat)
  strides : Option (List Nat)
  exports : Nat
deriving DecidableEq, Inhabited, Repr

/-- The questions that a program can ask. -/
inductive Query where
  | trace (record : Json)
  /-- The name under which the module was loaded. -/
  | self
  | load (name : String)
  /-- Counts a counter of the module and answers how often it has been counted. -/
  | count (counter : String)
  /-- Puts an object into the list of objects that the module keeps. -/
  | keep (o : Object)
  /-- Stores an object for good, apart from the list of kept objects. -/
  | store (o : Object)
  /-- Empties the list of kept objects. -/
  | forget
  /-- The object that was kept last. -/
  | kept
  /-- Leaves an object in a cycle that nothing else refers to. -/
  | abandon (o : Object)
  | item (o : Object) (x : Index)
  | assign (o : Object) (x : Index) (v : Value)
  | append (o : Object) (v : Value)
  | length (o : Object)
  | rank (o : Object)
  | shape (o : Object)
  | contents (o : Object)
  | describe (o : Object)
  /-- A list of its own with some items. -/
  | collect (items : List Value)
  /-- The exporter behind a window. -/
  | base (o : Object)
  | window (o : Object)
  /-- Everything but the first row. -/
  | tail (o : Object)
  | exports (o : Object)
  /-- Requests memory from an exporter and gives it back; `into` says whether there is a place
  for the answer. -/
  | request (o : Object) (flags : Int) (into : Bool)

@[reducible] def Query.Answer : Query → Type
  | trace _ => Unit
  | self => String
  | load _ => Unit
  | count _ => Nat
  | keep _ => Unit
  | store _ => Unit
  | forget => Unit
  | kept => Object
  | abandon _ => Unit
  | item .. => Value
  | assign .. => Unit
  | append .. => Unit
  | length _ => Nat
  | rank _ => Nat
  | shape _ => List Nat
  | contents _ => List Value
  | describe _ => Description
  | collect _ => Object
  | base _ => Object
  | window _ => Object
  | tail _ => Object
  | exports _ => Nat
  | request .. => Grant

/-- A program with results of some type. -/
inductive Program (α : Type) : Type where
  | done (r : Except Exn α)
  | ask (q : Query) (next : Except Exn q.Answer → Program α)

namespace Program

variable {α β : Type}

/-- One program after the other; an exception ends both. -/
protected def bind : Program α → (α → Program β) → Program β
  | done (.ok a), f => f a
  | done (.error e), _ => done (.error e)
  | ask q next, f => ask q fun r => (next r).bind f

instance : Monad Program where
  pure a := done (.ok a)
  bind := Program.bind

def raise (e : Exn) : Program α := done (.error e)

def query (q : Query) : Program q.Answer := ask q done

/-- Gives the exception as a result where there is one. -/
def attempt : Program α → Program (Except Exn α)
  | done r => done (.ok r)
  | ask q next => ask q fun r => (next r).attempt

def ofExcept : Except Exn α → Program α := done

def forEach (f : β → Program Unit) : List β → Program Unit
  | [] => pure ()
  | b :: bs => f b >>= fun _ => forEach f bs

end Program

/-- What a module file defines. -/
structure Code where
  /-- Runs when the file is imported. -/
  top : Program Unit
  /-- The mandatory function of an action: the four times of the step, then the fields. -/
  perform : Option (List Float → List Object → Program Unit)
  /-- Called for every vertex with its id, its coordinates and its values. -/
  vertex : Option (VertexId → List Float → Value → Value → Program Value)
  post : Option (Program Unit)
  asarray : Option (Object → Program Object)
deriving Inhabited

namespace Code

def performHook : String := "performAction"

def vertexHook : String := "vertexCallback"

def postHook : String := "postAction"

def arrayHook : String := "asarray"

def defined (code : Code) : List String :=
  (if code.perform.isSome then [performHook] else []) ++
    (if code.vertex.isSome then [vertexHook] else []) ++
    (if code.post.isSome then [postHook] else []) ++
    (if code.asarray.isSome then [arrayHook] else [])

end Code

end FieldMesh

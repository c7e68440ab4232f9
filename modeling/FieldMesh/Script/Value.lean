import FieldMesh.Json.Basic
import FieldMesh.Text.Quoted

/-! # Values and exceptions of user modules

The values that user modules compute with, how they are taken back as numbers, and the
exceptions that end a computation.
-/

namespace FieldMesh

/-- A value that does not change. -/
inductive Value where
  | none
  | bool (b : Bool)
  | int (i : Int)
  | float (x : Float)
  | str (s : String)
  | tuple (items : List Value)
  | list (items : List Value)
  | dict
  | object
deriving Inhabited

structure Exn where
  /-- The name of its type. -/
  kind : String
  text : String
  /-- It was raised by the module itself and not by an operation. -/
  explicit : Bool
deriving DecidableEq, Inhabited, Repr

namespace Exn

/-- An exception of an operation. -/
def of (kind text : String) : Exn := ⟨kind, text, false⟩

/-- Types of exceptions with a second name. -/
def aliases : List (String × String) := [("IOError", "OSError"), ("EnvironmentError", "OSError")]

/-- Types of exceptions that are not made from a text alone, and the text that says so. -/
def demanding : List (String × String) :=
  [("UnicodeDecodeError", "function takes exactly 5 arguments (1 given)"),
    ("UnicodeEncodeError", "function takes exactly 5 arguments (1 given)"),
    ("UnicodeTranslateError", "function takes exactly 4 arguments (1 given)"),
    ("ExceptionGroup", "BaseExceptionGroup.__new__() takes exactly 2 arguments (1 given)"),
    ("BaseExceptionGroup", "BaseExceptionGroup.__new__() takes exactly 2 arguments (1 given)")]

/-- An exception of the module; a missing key is quoted. -/
def raised (kind text : String) : Exn :=
  match demanding.lookup kind with
  | some refusal => of "TypeError" refusal
  | none =>
    ⟨(aliases.lookup kind).getD kind,
      if kind = "KeyError" then Quoted.apostrophed text else text, true⟩

def message (e : Exn) : String := s!"{e.kind}: {e.text}"

/-- The types of exceptions that end a module even if it handles exceptions. -/
def unhandled : List String :=
  ["SystemExit", "KeyboardInterrupt", "GeneratorExit", "BaseException"]

/-- Whether a module that handles exceptions goes on after this one. -/
def isHandled (e : Exn) : Bool := !unhandled.contains e.kind

end Exn

namespace Value

def kind : Value → String
  | none => "NoneType"
  | bool _ => "bool"
  | int _ => "int"
  | float _ => "float"
  | str _ => "str"
  | tuple _ => "tuple"
  | list _ => "list"
  | dict => "dict"
  | object => "object"

def isNone : Value → Bool
  | none => true
  | _ => false

def ofBool (b : Bool) : Float := if b then 1.0 else 0.0

/-- The number nearest to an integer, if there is one. -/
def ofInt? (i : Int) : Option Float :=
  let magnitude := Float.ofScientific i.natAbs false 0
  if magnitude.isFinite then some (if i < 0 then -magnitude else magnitude) else Option.none

def toFloat : Value → Except Exn Float
  | float x => .ok x
  | bool b => .ok (ofBool b)
  | int i =>
    match ofInt? i with
    | some x => .ok x
    | Option.none => .error (.of "OverflowError" "int too large to convert to float")
  | v => .error (.of "TypeError" s!"must be real number, not {v.kind}")

def toItems : Value → Except Exn (List Value)
  | tuple items => .ok items
  | list items => .ok items
  | str _ => .error (.of "TypeError" "Can't extract `str` to `Vec`")
  | v => .error (.of "TypeError" s!"'{v.kind}' object cannot be converted to 'Sequence'")

def toFloats (v : Value) : Except Exn (List Float) := do (← v.toItems).mapM toFloat

def scaled (v : Value) (k : Float) : Except Exn Float :=
  match v with
  | str _ | tuple _ | list _ =>
    .error (.of "TypeError" "can't multiply sequence by non-int of type 'float'")
  | none | dict | object =>
    .error (.of "TypeError" s!"unsupported operand type(s) for *: '{v.kind}' and 'float'")
  | _ => (· * k) <$> v.toFloat

def shifted (v : Value) (x : Float) : Except Exn Float :=
  match v with
  | str _ | tuple _ | list _ =>
    .error (.of "TypeError" s!"can only concatenate {v.kind} (not \"float\") to {v.kind}")
  | none | dict | object =>
    .error (.of "TypeError" s!"unsupported operand type(s) for +: '{v.kind}' and 'float'")
  | _ => (· + x) <$> v.toFloat

def noProduct (v factor : Value) : Exn :=
  .of "TypeError" s!"unsupported operand type(s) for *: '{v.kind}' and '{factor.kind}'"

/-- The product of a component of a row, or of no value, and a factor that keeps its type. -/
def times (v factor : Value) : Except Exn Value :=
  match factor with
  | str _ | tuple _ | list _ =>
    .error (.of "TypeError" s!"can't multiply sequence by non-int of type '{v.kind}'")
  | none | dict | object => .error (noProduct v factor)
  | _ =>
    match v with
    | float x => return float (x * (← factor.toFloat))
    | _ => .error (noProduct v factor)

mutual

def record : Value → Json
  | none => .null
  | bool b => .bool b
  | int i => .int i
  | float x => .float x
  | str s => .str s
  | tuple items => .arr (records items)
  | list items => .arr (records items)
  | dict => .obj []
  | object => .obj []

def records : List Value → List Json
  | [] => []
  | v :: vs => v.record :: records vs

end

end Value

end FieldMesh

import FieldMesh.Action.Lending
import FieldMesh.Action.Native

/-! # Scripted actions

A scripted action runs functions of a user module. The module is loaded when the action is
performed for the first time. From then on every call lends the configured fields to the
mandatory function; if the module keeps memory beyond that function, the fields are cut off and
the action is disabled, and otherwise the two other functions run, the first once per vertex. A
disabled action answers every further call with the error that disabled it.
-/

namespace FieldMesh

/-- The functions of a loaded module. -/
structure Hooks where
  perform : List Float → List Object → Program Unit
  vertex : Option (VertexId → List Float → Value → Value → Program Value)
  post : Option (Program Unit)
  /-- The module that makes arrays, if it could be imported. -/
  arrays : Option String

/-- How far a scripted action has come. -/
inductive ModuleState where
  | unloaded
  | ready (hooks : Hooks)
  | failed (error : ActionError)

structure ScriptedAction where
  timing : Timing
  path : String
  module : String
  mesh : MeshKey
  source : Option FieldId
  target : Option FieldId
  state : ModuleState

/-- Why a call of a loaded module failed; memory that is still referred to disables the action. -/
structure CallFailure where
  error : Failure ActionError
  disables : Bool

namespace ScriptedAction

def new (timing : Timing) (path module : String) (mesh : MeshKey)
    (source target : Option FieldId) : ScriptedAction :=
  ⟨timing, path, module, mesh, source, target, .unloaded⟩

/-- Whether the module has been loaded and the action is not disabled. -/
def isLoaded (a : ScriptedAction) : Bool :=
  match a.state with
  | .ready _ => true
  | _ => false

def failure? (a : ScriptedAction) : Option ActionError :=
  match a.state with
  | .failed e => some e
  | _ => none

/-- The directory that is searched for the module; no path means the working directory. -/
def directory (a : ScriptedAction) (d : Disk) : String :=
  d.canonical (if a.path = "" then "." else a.path)

def loadedText (module directory : String) (hooks : Hooks) : String :=
  s!"loaded python module `{module}` from {directory} " ++
    s!"(vertexCallback: {hooks.vertex.isSome}, postAction: {hooks.post.isSome})"

/-- Takes the functions of an imported module, and imports the module that makes arrays. The
optional functions are looked up after that import, which may have put a part of the module before
one of them. -/
def takeHooks (module directory : String) (c : Coupling) : Except ActionError Hooks × Coupling :=
  match c.interpreter.module? module with
  | none => (.error (.missingHook module Code.performHook), c)
  | some l =>
    match l.perform with
    | none => (.error (.missingHook module Code.performHook), c)
    | some perform =>
      let (arrays, c) :=
        match c.load "numpy" with
        | (.ok (), c) => (some "numpy", c)
        | (.error e, c) =>
          (none, c.emit .debug s!"numpy unavailable, passing memoryviews: {e.message}")
      let now := (c.interpreter.module? module).getD l
      let hooks : Hooks := ⟨perform, now.vertex, now.post, arrays⟩
      (.ok hooks, c.emit .info (loadedText module directory hooks))

/-- Imports a module from a directory as a user of the interpreter, and takes its functions. -/
def importHooks (module directory : String) (c : Coupling) :
    Except ActionError Hooks × Coupling :=
  let placed := c.acquire.addPlace directory
  let before := placed.interpreter.modules.map (·.name)
  let (imported, c) := placed.load module
  let tracked := c.track (c.newModules before directory module)
  match imported with
  | .error e => (.error (.importFailed module directory e.message), tracked.release)
  | .ok () =>
    match takeHooks module directory tracked with
    | (.error e, c) => (.error e, c.release)
    | (.ok hooks, c) => (.ok hooks, c)

def disabledText (module : String) (e : ActionError) : String :=
  s!"python action `{module}` disabled: {e.message}"

/-- Loads the module unless that has been tried before. -/
def ensureLoaded (a : ScriptedAction) (c : Coupling) : ModuleState × Coupling :=
  match a.state with
  | .unloaded =>
    match importHooks a.module (a.directory c.interpreter.disk) c with
    | (.ok hooks, c) => (.ready hooks, c)
    | (.error e, c) => (.failed e, c.emit .error (disabledText a.module e))
  | state => (state, c)

/-- A field that does not cover the vertices cannot be lent. -/
def selectionError (module : String) : MeshError → ActionError
  | .fieldLength name expected found =>
    .marshal module name (MeshError.fieldLength name expected found).message
  | e => .mesh e

def select (a : ScriptedAction) (c : Coupling) : Except (Failure ActionError) Selection :=
  ((c.mesh a.mesh).select a.source a.target).mapError (·.mapError (selectionError a.module))

/-- Lends the fields, the source first; if one cannot be lent, nothing stays on loan. -/
def lendAll (a : ScriptedAction) (hooks : Hooks) (fields : Selection) (c : Coupling) :
    Except ActionError (List LentField) × Coupling :=
  let lendTo (c : Coupling) (writable : Bool) : Option Placed →
      Except ActionError (List LentField) × Coupling
    | none => (.ok [], c)
    | some p =>
      match c.lend hooks.arrays a.mesh p writable with
      | (.ok lent, c) => (.ok [lent], c)
      | (.error reason, c) => (.error (.marshal a.module p.field.name reason), c)
  match lendTo c false fields.source with
  | (.error e, c) => (.error e, c)
  | (.ok sources, c) =>
    match lendTo c true fields.target with
    | (.ok targets, c) => (.ok (sources ++ targets), c)
    | (.error e, c) => (.error e, sources.foldl (fun c lent => c.dropLoan lent.loan) c)

/-- What the errors of loans amount to: memory that is kept, then what the function raised,
then a list that does not fit. -/
def settle (module : String) (outcome : Except ActionError Unit)
    (errors : List (LentField × LoanError)) : Except ActionError Unit :=
  let restate (e : LentField × LoanError) : ActionError := .marshal module e.1.name e.2.message
  match errors.find? (·.2.isRetained), outcome, errors.head? with
  | some e, _, _ => .error (restate e)
  | none, .error e, _ => .error e
  | none, .ok (), some e => .error (restate e)
  | none, .ok (), none => .ok ()

def hookError (module function : String) (e : Exn) : ActionError :=
  .hookFailed module function e.message

/-- Runs the mandatory function on lent fields; answers the fields that the module keeps. -/
def runPerform (a : ScriptedAction) (hooks : Hooks) (fields : Selection) (step : Step)
    (c : Coupling) : Except ActionError Unit × List FieldId × Coupling :=
  match a.lendAll hooks fields (c.setInterpreter c.interpreter.retire) with
  | (.error e, c) => (.error e, [], c)
  | (.ok lent, c) =>
    let times := [step.time, step.length, step.computed, step.window]
    let (outcome, c) := c.run a.module (hooks.perform times (lent.map (·.loan.object)))
    let (errors, c) := c.endLoans lent
    (settle a.module (outcome.mapError (hookError a.module Code.performHook)) errors,
      (errors.filter (·.2.isRetained)).map (·.1.id),
      c.setInterpreter c.interpreter.retire)

/-- The values of a row as the function for vertices sees them. -/
def entryOf : Option (List Float) → Value
  | none => .none
  | some [x] => .float x
  | some xs => .tuple (xs.map .float)

/-- The new values of a row from what the function for vertices returned. -/
def takeRow (v : Value) (components : Nat) : Except String (List Float) :=
  match if components = 1 then v.toFloat.toOption else none with
  | some x => .ok [x]
  | none =>
    match v.toFloats with
    | .error e => .error s!"returned value is not numeric ({e.message})"
    | .ok xs =>
      if xs.length = components then .ok xs
      else .error s!"returned {xs.length} components, expected {components}"

/-- The row of a slot in the field that stands at a position now. -/
def rowAt (c : Coupling) (k : MeshKey) (p : Option Placed) (slot : Nat) :
    Except Fault (Option (List Float)) :=
  match p.bind fun p => (c.mesh k).fields[p.position]? with
  | none => .ok none
  | some f => f.row slot

def storeRow (a : ScriptedAction) (target : Option Placed) (slot : Nat) (id : VertexId)
    (v : Value) (c : Coupling) : Except (Failure ActionError) Coupling :=
  match target.bind fun p => ((c.mesh a.mesh).fields[p.position]?).map (p.position, ·) with
  | none =>
    .error (.refused (.hookFailed a.module Code.vertexHook
      s!"returned a value for vertex {id} but the action has no target data"))
  | some (position, f) =>
    match f.row slot with
    | .error fault => .error (.fault fault)
    | .ok none =>
      .error (.refused (.marshal a.module f.name s!"no values for vertex {id}"))
    | .ok (some row) =>
      match takeRow v row.length with
      | .error reason =>
        .error (.refused (.marshal a.module f.name s!"vertex {id}: {reason}"))
      | .ok new =>
        match f.setRow slot new with
        | .error fault => .error (.fault fault)
        | .ok none => .ok c
        | .ok (some g) =>
          .ok (c.setMesh a.mesh ((c.mesh a.mesh).setFieldValues position g.values))

/-- Runs the function for one vertex and stores what it returns. -/
def runVertex (a : ScriptedAction)
    (callback : VertexId → List Float → Value → Value → Program Value) (fields : Selection)
    (vertex : Vertex) (slot : Nat) (c : Coupling) :
    Except (Failure ActionError) Unit × Coupling :=
  match rowAt c a.mesh fields.source slot, rowAt c a.mesh fields.target slot with
  | .error fault, _ => (.error (.fault fault), c)
  | _, .error fault => (.error (.fault fault), c)
  | .ok source, .ok target =>
    match c.run a.module
      (callback vertex.id vertex.coords.toList (entryOf source) (entryOf target)) with
    | (.error e, c) => (.error (.refused (hookError a.module Code.vertexHook e)), c)
    | (.ok v, c) =>
      if v.isNone then (.ok (), c)
      else
        match a.storeRow fields.target slot vertex.id v c with
        | .error e => (.error e, c)
        | .ok c => (.ok (), c)

/-- Runs the function for vertices in order until one call fails. -/
def runVertices (a : ScriptedAction)
    (callback : VertexId → List Float → Value → Value → Program Value) (fields : Selection) :
    List (Vertex × Nat) → Coupling → Except (Failure ActionError) Unit × Coupling
  | [], c => (.ok (), c)
  | (vertex, slot) :: rest, c =>
    match a.runVertex callback fields vertex slot c with
    | (.ok (), c) => a.runVertices callback fields rest c
    | (.error e, c) => (.error e, c)

def runEachVertex (a : ScriptedAction) (hooks : Hooks) (fields : Selection) (c : Coupling) :
    Except (Failure ActionError) Unit × Coupling :=
  match hooks.vertex with
  | none => (.ok (), c)
  | some callback => a.runVertices callback fields (c.mesh a.mesh).vertices.zipIdx c

def runPost (a : ScriptedAction) (hooks : Hooks) (c : Coupling) :
    Except (Failure ActionError) Unit × Coupling :=
  match hooks.post with
  | none => (.ok (), c)
  | some post =>
    match c.run a.module post with
    | (.ok (), c) => (.ok (), c)
    | (.error e, c) => (.error (.refused (hookError a.module Code.postHook e)), c)

/-- Runs the function for vertices and then, if no call failed, the last function. -/
def runCallbacks (a : ScriptedAction) (hooks : Hooks) (fields : Selection) (c : Coupling) :
    Except (Failure ActionError) Unit × Coupling :=
  match a.runEachVertex hooks fields c with
  | (.error e, c) => (.error e, c)
  | (.ok (), c) => a.runPost hooks c

def runHooks (a : ScriptedAction) (hooks : Hooks) (step : Step) (c : Coupling) :
    Except CallFailure Unit × Coupling :=
  match a.select c with
  | .error e => (.error ⟨e, false⟩, c)
  | .ok fields =>
    match a.runPerform hooks fields step c with
    | (.error e, [], c) => (.error ⟨.refused e, false⟩, c)
    | (.ok (), [], c) =>
      match a.select c with
      | .error e => (.error ⟨e, false⟩, c)
      | .ok fields =>
        let (done, c) := a.runCallbacks hooks fields c
        (done.mapError fun e => ⟨e, false⟩, c)
    | (outcome, kept, c) =>
      let error : ActionError :=
        match outcome with
        | .error e => e
        | .ok () => .runtime s!"python module `{a.module}` kept a data buffer"
      (.error ⟨.refused error, true⟩, kept.foldl (fun c d => c.detach a.mesh d) c)

/-- Leaves a loaded action behind: it uses the interpreter no more. -/
def release (a : ScriptedAction) (c : Coupling) : Coupling :=
  if a.isLoaded then c.release else c

def disable (a : ScriptedAction) (e : ActionError) (c : Coupling) :
    Performed ScriptedAction Coupling :=
  ⟨.error (.refused e), { a with state := .failed e },
    a.release (c.emit .error (disabledText a.module e))⟩

def performReady (a : ScriptedAction) (hooks : Hooks) (step : Step) (c : Coupling) :
    Performed ScriptedAction Coupling :=
  match c.checkFree a.mesh with
  | .error e => ⟨.error (.refused e), a, c⟩
  | .ok () =>
    match a.runHooks hooks step (c.setBorrow a.mesh .exclusive) with
    | (.ok (), c) => ⟨.ok (), a, c.setBorrow a.mesh .free⟩
    | (.error ⟨.refused e, true⟩, c) => a.disable e (c.setBorrow a.mesh .free)
    | (.error ⟨e, _⟩, c) => ⟨.error e, a, c.setBorrow a.mesh .free⟩

def perform (a : ScriptedAction) (step : Step) (c : Coupling) :
    Performed ScriptedAction Coupling :=
  let (state, c) := a.ensureLoaded c
  let loaded := { a with state := state }
  match state with
  | .ready hooks => loaded.performReady hooks step c
  | .failed e => ⟨.error (.refused e), loaded, c⟩
  | .unloaded =>
    ⟨.error (.refused (.runtime s!"python module `{a.module}` is not loaded")), loaded, c⟩

def text (a : ScriptedAction) : String :=
  s!"PythonAction \x7b timing: {a.timing.tag}, module_path: {Quoted.quote a.path}, " ++
    s!"module_name: {Quoted.quote a.module}, source: {NativeAction.optionText a.source}, " ++
    s!"target: {NativeAction.optionText a.target}, loaded: {a.isLoaded}, .. \x7d"

end ScriptedAction

end FieldMesh

import FieldMesh.Proofs.Calls

/-! # Uses of the interpreter

Actions come and go, and so do guards that keep the interpreter in use. Whatever they do, for the
interpreter it comes down to turns: a user joins, a module is loaded from a directory, a user
leaves. Between the turns work goes on that leaves the uses alone.
-/

namespace FieldMesh

/-- A module has been loaded from a directory: the interpreter before and after. -/
structure Load where
  directory : String
  module : String
  before : Interpreter
  after : Interpreter

namespace Load

/-- A module is new since the load, and it is the one asked for or lies in the directory. -/
def Finds (load : Load) (name : String) : Prop :=
  load.before.isLoaded name = false ∧ ∃ l ∈ load.after.modules, l.name = name ∧
    (name = load.module ∨ ∃ file, l.file = some file ∧ Coupling.liesIn load.directory file = true)

end Load

/-- What users do to the interpreter. -/
inductive Turn where
  | join
  | load (load : Load)
  | leave

namespace Coupling

variable {c c' c'' : Coupling} {turns : List Turn}

/-- Loads a module from a directory, and tracks what the load finds. -/
def loadFrom (c : Coupling) (directory module : String) : Coupling :=
  let placed := c.addPlace directory
  let loaded := (placed.load module).2
  loaded.track (loaded.newModules (placed.interpreter.modules.map (·.name)) directory module)

def loadOf (c : Coupling) (directory module : String) : Load :=
  let placed := c.addPlace directory
  ⟨directory, module, placed.interpreter, (placed.load module).2.interpreter⟩

/-- Work between turns: the uses and the places to search are what they were, and modules are
taken up only while the interpreter is in use. -/
structure Proceeds (c c' : Coupling) : Prop where
  lease : c'.lease = c.lease
  searchPath : c'.interpreter.searchPath = c.interpreter.searchPath
  loaded : ∀ name, c.interpreter.isLoaded name = true → c'.interpreter.isLoaded name = true
  quiet : c.lease.users = 0 → c'.interpreter.modules = c.interpreter.modules
  atRest : c.AtRest → c'.AtRest
  cut : ∀ k id, c.Cut k id → c'.Cut k id

theorem Works.proceeds (h : c.Works c') (used : 0 < c.lease.users) : c.Proceeds c' :=
  ⟨h.lease, h.searchPath, h.loaded, fun unused => absurd unused (Nat.ne_of_gt used), h.atRest, h.cut⟩

namespace Proceeds

theorem emit (c : Coupling) (level : Level) (text : String) : c.Proceeds (c.emit level text) :=
  ⟨rfl, rfl, fun _ h => h, fun _ => rfl, fun h => h.of_eq rfl rfl, fun _ _ h => h.of_eq rfl⟩

theorem setCells (c : Coupling) (cells : List Cell) : c.Proceeds { c with cells } :=
  ⟨rfl, rfl, fun _ h => h, fun _ => rfl, fun h => h.of_eq rfl rfl, fun _ _ h => h.of_eq rfl⟩

theorem setDisk (c : Coupling) (disk : Disk) :
    c.Proceeds (c.setInterpreter { c.interpreter with disk }) :=
  ⟨rfl, rfl, fun _ h => h, fun _ => rfl, fun h => h.of_eq rfl rfl, fun _ _ h => h.of_eq rfl⟩

end Proceeds

/-- Users take turns, with work in between. Nobody loads or leaves who has not joined. -/
inductive Passes : Coupling → List Turn → Coupling → Prop where
  | done (c : Coupling) : Passes c [] c
  | work {c c' c'' : Coupling} {turns : List Turn} (h : Passes c turns c')
    (hwork : c'.Proceeds c'') : Passes c turns c''
  | join {c c' : Coupling} {turns : List Turn} (h : Passes c turns c') :
    Passes c (turns ++ [.join]) c'.acquire
  | load {c c' : Coupling} {turns : List Turn} (h : Passes c turns c') (used : 0 < c'.lease.users)
    (directory module : String) :
    Passes c (turns ++ [.load (c'.loadOf directory module)]) (c'.loadFrom directory module)
  | leave {c c' : Coupling} {turns : List Turn} (h : Passes c turns c')
    (used : 0 < c'.lease.users) : Passes c (turns ++ [.leave]) c'.release

theorem Passes.trans {turns' : List Turn} (h₁ : Passes c turns c') (h₂ : Passes c' turns' c'') :
    Passes c (turns ++ turns') c'' := by
  induction h₂ with
  | done => rwa [List.append_nil]
  | work _ hwork ih => exact ih.work hwork
  | join _ ih =>
    rw [← List.append_assoc]
    exact ih.join
  | load _ used directory module ih =>
    rw [← List.append_assoc]
    exact ih.load used directory module
  | leave _ used ih =>
    rw [← List.append_assoc]
    exact ih.leave used

/-! ## What a turn does -/

theorem users_acquire (c : Coupling) : c.acquire.lease.users = c.lease.users + 1 := by
  unfold acquire
  split <;> rfl

theorem interpreter_acquire (c : Coupling) : c.acquire.interpreter = c.interpreter := by
  unfold acquire
  split <;> rfl

theorem cells_acquire (c : Coupling) : c.acquire.cells = c.cells := by
  unfold acquire
  split <;> rfl

theorem addPlace_cases (c : Coupling) (place : String) :
    c.interpreter.searchPath.contains place = true ∧ c.addPlace place = c ∨
      c.interpreter.searchPath.contains place = false ∧ c.addPlace place = { c with
        interpreter := { c.interpreter with searchPath := c.interpreter.searchPath ++ [place] }
        lease := { c.lease with searchPaths := c.lease.searchPaths ++ [place] } } := by
  unfold addPlace
  split
  · rename_i h
    exact .inl ⟨h, rfl⟩
  · rename_i h
    exact .inr ⟨by simpa using h, rfl⟩

theorem exists_addPlace (c : Coupling) (place : String) :
    ∃ searchPath, (c.addPlace place).interpreter = { c.interpreter with searchPath } ∧
      (c.addPlace place).cells = c.cells := by
  obtain ⟨_, h⟩ | ⟨_, h⟩ := c.addPlace_cases place <;> rw [h]
  · exact ⟨c.interpreter.searchPath, rfl, rfl⟩
  · exact ⟨_, rfl, rfl⟩

theorem users_addPlace (c : Coupling) (place : String) :
    (c.addPlace place).lease.users = c.lease.users := by
  obtain ⟨_, h⟩ | ⟨_, h⟩ := c.addPlace_cases place <;> rw [h]

theorem users_loadFrom (c : Coupling) (directory module : String) :
    (c.loadFrom directory module).lease.users = c.lease.users := by
  have hload := (confined_load module (c.addPlace directory)).lease
  have husers : (c.loadFrom directory module).lease.users =
      ((c.addPlace directory).load module).2.lease.users := rfl
  rw [husers, hload, users_addPlace]

theorem exporters_loadFrom (c : Coupling) (directory module : String) :
    (c.loadFrom directory module).interpreter.exporters = c.interpreter.exporters := by
  have hload := (confined_load module (c.addPlace directory)).exporters
  obtain ⟨_, hplaced, -⟩ := c.exists_addPlace directory
  exact hload.trans (congrArg (·.exporters) hplaced)

theorem frame_loadFrom (c : Coupling) (directory module : String) :
    (c.loadFrom directory module).interpreter.frame = c.interpreter.frame := by
  have hload := (confined_load module (c.addPlace directory)).frame
  obtain ⟨_, hplaced, -⟩ := c.exists_addPlace directory
  exact hload.trans (congrArg (·.frame) hplaced)

namespace Passes

/-- No function runs between the turns, and no exporter grants anything. -/
theorem atRest (h : Passes c turns c') (hrest : c.AtRest) : c'.AtRest := by
  induction h with
  | done => exact hrest
  | work _ hwork ih => exact hwork.atRest ih
  | join _ ih => exact ih.of_eq (by rw [interpreter_acquire]) (by rw [interpreter_acquire])
  | load _ _ directory module ih =>
    exact ih.of_eq (frame_loadFrom _ directory module) (exporters_loadFrom _ directory module)
  | leave _ _ ih => exact ih.of_eq (frame_release _) (exporters_release _)

theorem cut (h : Passes c turns c') {k : MeshKey} {id : Nat} (hcut : c.Cut k id) : c'.Cut k id := by
  induction h with
  | done => exact hcut
  | work _ hwork ih => exact hwork.cut k id ih
  | join _ ih => exact ih.of_eq (by rw [interpreter_acquire])
  | load _ _ directory module ih => exact ih.of_eq (exporters_loadFrom _ directory module)
  | leave _ _ ih => exact ih.of_eq (exporters_release _)

end Passes

end Coupling

/-! ## The turns of an action -/

namespace ScriptedAction

variable {a : ScriptedAction} {step : Step} {c : Coupling}

theorem importHooks_eq (module directory : String) (c : Coupling) :
    importHooks module directory c =
      let loaded := c.acquire.loadFrom directory module
      match ((c.acquire.addPlace directory).load module).1 with
      | .error e => (.error (.importFailed module directory e.message), loaded.release)
      | .ok () =>
        match takeHooks module directory loaded with
        | (.error e, c) => (.error e, c.release)
        | (.ok hooks, c) => (.ok hooks, c) := rfl

/-- The turns of a call: the first one joins and loads, and an action that does not end up ready
leaves. -/
def turns (a : ScriptedAction) (step : Step) (c : Coupling) : List Turn :=
  let left : List Turn := if (a.perform step c).action.isLoaded then [] else [.leave]
  match a.state with
  | .unloaded => [.join, .load (c.acquire.loadOf (a.directory c.interpreter.disk) a.module)] ++ left
  | .ready _ => left
  | .failed _ => []

theorem passes_performReady (h : a.isLoaded = true) (used : 0 < c.lease.users) (hooks : Hooks)
    (step : Step) :
    Coupling.Passes c (if (a.performReady hooks step c).action.isLoaded then [] else [.leave])
      (a.performReady hooks step c).state := by
  obtain ⟨hworks, haction⟩ | ⟨e, c', hworks, heq⟩ := performReady_cases h hooks step c
  · rw [haction, h]
    exact .work (.done c) (hworks.proceeds used)
  · rw [heq]
    exact .leave (.work (.done c) (hworks.proceeds used)) (by rwa [hworks.lease])

theorem passes_importHooks (module directory : String) (c : Coupling) :
    ∃ c', Coupling.Passes c [.join, .load (c.acquire.loadOf directory module)] c' ∧
      0 < c'.lease.users ∧
      ((∃ hooks, importHooks module directory c = (.ok hooks, c')) ∨
        ∃ e, importHooks module directory c = (.error e, c'.release)) := by
  have hjoined : 0 < c.acquire.lease.users := by
    rw [Coupling.users_acquire]
    exact Nat.succ_pos _
  have hpasses : Coupling.Passes c [.join, .load (c.acquire.loadOf directory module)]
      (c.acquire.loadFrom directory module) := ((Coupling.Passes.done c).join).load hjoined _ _
  have hloaded : 0 < (c.acquire.loadFrom directory module).lease.users := by
    rwa [Coupling.users_loadFrom]
  have htake := works_takeHooks module directory (c.acquire.loadFrom directory module)
  have himport := importHooks_eq module directory c
  simp only at himport
  split at himport
  · exact ⟨_, hpasses, hloaded, .inr ⟨_, himport⟩⟩
  · split at himport <;> rename_i heq <;> have htaken := htake.of_eq heq
    · exact ⟨_, hpasses.work (htaken.proceeds hloaded), by rwa [htaken.lease], .inr ⟨_, himport⟩⟩
    · exact ⟨_, hpasses.work (htaken.proceeds hloaded), by rwa [htaken.lease], .inl ⟨_, himport⟩⟩

theorem passes_perform_of_unloaded (h : a.state = .unloaded) (step : Step) (c : Coupling) :
    Coupling.Passes c (a.turns step c) (a.perform step c).state := by
  obtain ⟨c', hpasses, hused, ⟨hooks, himport⟩ | ⟨e, himport⟩⟩ :=
    passes_importHooks a.module (a.directory c.interpreter.disk) c
  · have hperform : a.perform step c =
        { a with state := .ready hooks }.performReady hooks step c' := by
      simp only [perform, ensureLoaded, h, himport]
    have hready := passes_performReady (a := { a with state := .ready hooks }) rfl hused hooks step
    simp only [turns, h, hperform]
    exact hpasses.trans hready
  · have hperform : a.perform step c = ⟨.error (.refused e), { a with state := .failed e },
        c'.release.emit .error (disabledText a.module e)⟩ := by
      simp only [perform, ensureLoaded, h, himport]
    simp only [turns, h, hperform, isLoaded]
    exact (hpasses.leave hused).work (.emit _ _ _)

theorem passes_ensureLoaded {hooks : Hooks} {c' : Coupling}
    (h : a.ensureLoaded c = (.ready hooks, c')) : ∃ turns, Coupling.Passes c turns c' := by
  cases hstate : a.state with
  | unloaded =>
    obtain ⟨loaded, hpasses, -, ⟨_, himport⟩ | ⟨_, himport⟩⟩ :=
      passes_importHooks a.module (a.directory c.interpreter.disk) c <;>
      simp only [ensureLoaded, hstate, himport] at h
    · cases h
      exact ⟨_, hpasses⟩
    · exact nomatch h
  | ready hooks =>
    simp only [ensureLoaded, hstate] at h
    cases h
    exact ⟨[], .done c⟩
  | failed e =>
    simp only [ensureLoaded, hstate] at h
    exact nomatch h

/-- A call of an action that is ready only while it uses the interpreter. -/
theorem passes_perform (used : a.isLoaded = true → 0 < c.lease.users) (step : Step) :
    Coupling.Passes c (a.turns step c) (a.perform step c).state := by
  cases h : a.state with
  | unloaded => exact passes_perform_of_unloaded h step c
  | ready hooks =>
    have hloaded : a.isLoaded = true := by rw [isLoaded, h]
    simp only [turns, h, perform_ready h]
    exact passes_performReady hloaded (used hloaded) hooks step
  | failed e =>
    simp only [turns, h, perform_failed h]
    exact .done c

end ScriptedAction

/-! ## Any number of actions and guards -/

/-- What happens to actions and guards that share a coupling. -/
inductive UsageEvent where
  | create (timing : Timing) (path module : String) (mesh : MeshKey) (source target : Option FieldId)
  | perform (i : Nat) (step : Step)
  | drop (i : Nat)
  | acquire
  /-- A guard is dropped, if there is one. -/
  | release
  /-- Others change or borrow the meshes. -/
  | meshes (cells : List Cell)
  | write (path : List String) (code : Code)

/-- Actions and guards, and the coupling that they share. -/
structure Usage where
  actions : List ScriptedAction
  guards : Nat
  coupling : Coupling

namespace Usage

variable {u : Usage}

def start (disk : Disk) (searchPath : List String) (modules : List Loaded) : Usage :=
  ⟨[], 0, (Coupling.start disk).setInterpreter { Interpreter.start disk with searchPath, modules }⟩

def apply (u : Usage) : UsageEvent → Usage
  | .create timing path module mesh source target =>
    { u with actions := u.actions ++ [.new timing path module mesh source target] }
  | .perform i step =>
    match u.actions[i]? with
    | none => u
    | some a =>
      let performed := a.perform step u.coupling
      { u with actions := u.actions.set i performed.action, coupling := performed.state }
  | .drop i =>
    match u.actions[i]? with
    | none => u
    | some a => { u with actions := u.actions.eraseIdx i, coupling := a.release u.coupling }
  | .acquire => { u with guards := u.guards + 1, coupling := u.coupling.acquire }
  | .release =>
    if u.guards = 0 then u
    else { u with guards := u.guards - 1, coupling := u.coupling.release }
  | .meshes cells => { u with coupling := { u.coupling with cells } }
  | .write path code =>
    let s := u.coupling.interpreter
    { u with coupling := u.coupling.setInterpreter { s with disk := s.disk.write path code } }

def run (u : Usage) (events : List UsageEvent) : Usage := events.foldl apply u

def turnsOf (u : Usage) : UsageEvent → List Turn
  | .perform i step =>
    match u.actions[i]? with
    | none => []
    | some a => a.turns step u.coupling
  | .drop i => if (u.actions[i]?).any (·.isLoaded) then [.leave] else []
  | .acquire => [.join]
  | .release => if u.guards = 0 then [] else [.leave]
  | _ => []

def turns (u : Usage) : List UsageEvent → List Turn
  | [] => []
  | e :: events => u.turnsOf e ++ (u.apply e).turns events

/-- How many actions and guards use the interpreter. -/
def alive (u : Usage) : Nat := u.actions.countP (·.isLoaded) + u.guards

theorem isLoaded_used {i : Nat} {a : ScriptedAction} (hcounted : u.coupling.lease.users = u.alive)
    (ha : u.actions[i]? = some a) (hloaded : a.isLoaded = true) : 0 < u.coupling.lease.users := by
  rw [hcounted]
  have hpos : 0 < u.actions.countP (·.isLoaded) :=
    List.countP_pos_iff.mpr ⟨a, List.mem_of_getElem? ha, hloaded⟩
  exact Nat.add_pos_left hpos _

theorem passes_apply (hcounted : u.coupling.lease.users = u.alive) (e : UsageEvent) :
    Coupling.Passes u.coupling (u.turnsOf e) (u.apply e).coupling := by
  cases e with
  | create timing path module mesh source target => exact .done _
  | perform i step =>
    cases ha : u.actions[i]? with
    | none =>
      simp only [apply, turnsOf, ha]
      exact .done _
    | some a =>
      simp only [apply, turnsOf, ha]
      exact ScriptedAction.passes_perform (isLoaded_used hcounted ha) step
  | drop i =>
    cases ha : u.actions[i]? with
    | none =>
      simp only [apply, turnsOf, ha]
      exact .done _
    | some a =>
      simp only [apply, turnsOf, ha, Option.any_some, ScriptedAction.release]
      split
      · rename_i hloaded
        exact (Coupling.Passes.done _).leave (isLoaded_used hcounted ha hloaded)
      · exact .done _
  | acquire => exact (Coupling.Passes.done _).join
  | release =>
    simp only [apply, turnsOf]
    split
    · exact .done _
    · rename_i hguards
      have hused : 0 < u.coupling.lease.users := by
        rw [hcounted, alive]
        omega
      exact (Coupling.Passes.done _).leave hused
  | meshes cells => exact (Coupling.Passes.done _).work (.setCells _ cells)
  | write path code => exact (Coupling.Passes.done _).work (.setDisk _ _)

end Usage

end FieldMesh

import FieldMesh.Proofs.Usage

/-! # Sessions

A ledger follows the turns of the users: how many there are, how many sessions have begun, and
what has been loaded in the last one. What the interpreter counts and records agrees with it at
every moment, and the places that are searched are those from before the session and, in order of
their first load, the directories of the loads of the session.
-/

namespace FieldMesh

/-- Who has joined and not left, how many sessions have begun, and the loads of the last one. -/
structure Ledger where
  guards : Nat
  sessions : Nat
  loads : List Load

namespace Ledger

/-- A user who joins when there is none begins a session. -/
def turn (ledger : Ledger) : Turn → Ledger
  | .join =>
    if ledger.guards = 0 then ⟨1, ledger.sessions + 1, []⟩
    else { ledger with guards := ledger.guards + 1 }
  | .load load => { ledger with loads := ledger.loads ++ [load] }
  | .leave => { ledger with guards := ledger.guards - 1 }

def after (ledger : Ledger) (turns : List Turn) : Ledger := turns.foldl turn ledger

def empty : Ledger := ⟨0, 0, []⟩

/-- The directories of the loads that were not searched before, each of them once. -/
def places (base : List String) (loads : List Load) : List String :=
  ((loads.map (·.directory)).filter fun directory => !base.contains directory).eraseDups

@[simp] theorem after_nil (ledger : Ledger) : ledger.after [] = ledger := rfl

@[simp] theorem after_cons (ledger : Ledger) (turn : Turn) (turns : List Turn) :
    ledger.after (turn :: turns) = (ledger.turn turn).after turns := rfl

@[simp] theorem guards_join (ledger : Ledger) :
    (ledger.turn .join).guards = ledger.guards + 1 := by
  by_cases hnone : ledger.guards = 0 <;> simp [turn, hnone]

@[simp] theorem guards_load (ledger : Ledger) (load : Load) :
    (ledger.turn (.load load)).guards = ledger.guards := rfl

@[simp] theorem guards_leave (ledger : Ledger) :
    (ledger.turn .leave).guards = ledger.guards - 1 := rfl

theorem after_append (ledger : Ledger) (turns turns' : List Turn) :
    ledger.after (turns ++ turns') = (ledger.after turns).after turns' := List.foldl_append

theorem mem_places {base : List String} {loads : List Load} {place : String} :
    place ∈ places base loads ↔ (∃ load ∈ loads, load.directory = place) ∧ place ∉ base := by
  simp [places]

theorem eraseDups_append_singleton (xs : List String) (x : String) :
    (xs ++ [x]).eraseDups = if x ∈ xs then xs.eraseDups else xs.eraseDups ++ [x] := by
  rw [List.eraseDups_append]
  by_cases h : x ∈ xs <;> simp [List.removeAll, List.eraseDups_cons, h]

theorem places_append_singleton (base : List String) (loads : List Load) (load : Load) :
    places base (loads ++ [load]) =
      if load.directory ∈ base ++ places base loads then places base loads
      else places base loads ++ [load.directory] := by
  by_cases hbase : load.directory ∈ base
  · simp [places, hbase]
  · have hnew : ([load.directory].filter fun directory => !base.contains directory) =
        [load.directory] := by simp [hbase]
    rw [places, List.map_append, List.filter_append, List.map_singleton, hnew,
      eraseDups_append_singleton]
    simp only [List.mem_append, hbase, false_or, places, List.mem_eraseDups]

end Ledger

namespace Coupling

variable {c c' : Coupling}

theorem removePlaces_append {base places : List String} (h : ∀ place ∈ places, place ∉ base) :
    removePlaces (base ++ places) places = base := by
  unfold removePlaces
  induction places with
  | nil => exact List.append_nil base
  | cons place places ih =>
    rw [List.foldl_cons, List.erase_append_right _ (h place List.mem_cons_self),
      List.erase_cons_head]
    exact ih fun other hother => h other (List.mem_cons_of_mem _ hother)

/-- What the interpreter counts and records agrees with a ledger. -/
structure Agrees (base : List String) (ledger : Ledger) (c : Coupling) : Prop where
  users : c.lease.users = ledger.guards
  generation : c.lease.generation = ledger.sessions
  searchPath : c.interpreter.searchPath = base ++ c.lease.searchPaths
  searchPaths : c.lease.searchPaths =
    if ledger.guards = 0 then [] else Ledger.places base ledger.loads
  tracked : ∀ name, name ∈ c.lease.tracked ↔
    ledger.guards ≠ 0 ∧ ∃ load ∈ ledger.loads, load.Finds name
  forgotten : ledger.guards = 0 → ∀ load ∈ ledger.loads, ∀ name, load.Finds name →
    c.interpreter.isLoaded name = false

namespace Agrees

variable {base : List String} {ledger : Ledger}

theorem work (h : Agrees base ledger c) (hwork : c.Proceeds c') : Agrees base ledger c' where
  users := by rw [hwork.lease, h.users]
  generation := by rw [hwork.lease, h.generation]
  searchPath := by rw [hwork.lease, hwork.searchPath, h.searchPath]
  searchPaths := by rw [hwork.lease, h.searchPaths]
  tracked := by rw [hwork.lease]; exact h.tracked
  forgotten hnone load hload name hfinds := by
    rw [Interpreter.isLoaded, hwork.quiet (h.users.trans hnone)]
    exact h.forgotten hnone load hload name hfinds

theorem join (h : Agrees base ledger c) : Agrees base (ledger.turn .join) c.acquire := by
  by_cases hnone : ledger.guards = 0
  · have hunused : c.lease.users = 0 := h.users.trans hnone
    have hsearch : c.lease.searchPaths = [] := by rw [h.searchPaths, if_pos hnone]
    have htracked : ∀ name, name ∉ c.lease.tracked :=
      fun name hname => ((h.tracked name).mp hname).1 hnone
    simp only [acquire, if_pos hunused, Ledger.turn, if_pos hnone]
    refine ⟨congrArg (· + 1) hunused, congrArg (· + 1) h.generation, h.searchPath, hsearch, ?_,
      fun hone => nomatch hone⟩
    exact fun name => iff_of_false (htracked name) fun hfound => by simp at hfound
  · have hused : ¬ c.lease.users = 0 := by rwa [h.users]
    simp only [acquire, if_neg hused, Ledger.turn, if_neg hnone]
    refine ⟨congrArg (· + 1) h.users, h.generation, h.searchPath, ?_, ?_, fun h => nomatch h⟩
    · exact h.searchPaths.trans (by rw [if_neg hnone, if_neg (Nat.succ_ne_zero _)])
    · exact fun name => (h.tracked name).trans (by simp [hnone])

theorem mem_foldl_addName {names names' : List String} {name : String} :
    name ∈ names'.foldl addName names ↔ name ∈ names ∨ name ∈ names' := by
  induction names' generalizing names with
  | nil => simp
  | cons other names' ih =>
    rw [List.foldl_cons, ih, addName]
    split
    · rename_i hother
      rw [List.contains_iff_mem] at hother
      constructor
      · rintro (hname | hname)
        · exact .inl hname
        · exact .inr (List.mem_cons_of_mem _ hname)
      · rintro (hname | hname)
        · exact .inl hname
        · rcases List.mem_cons.mp hname with rfl | hname
          · exact .inl hother
          · exact .inr hname
    · rw [List.mem_append, List.mem_singleton, List.mem_cons, or_assoc]

theorem mem_newModules_iff (c : Coupling) (directory module name : String) :
    name ∈ ((c.addPlace directory).load module).2.newModules
        ((c.addPlace directory).interpreter.modules.map (·.name)) directory module ↔
      (c.loadOf directory module).Finds name := by
  have hloaded : ((c.addPlace directory).interpreter.modules.map (·.name)).contains name =
      (c.addPlace directory).interpreter.isLoaded name := by
    simp only [List.contains_map, Interpreter.isLoaded, BEq.comm]
  simp only [newModules, List.mem_map, List.mem_filter, Bool.and_eq_true, Bool.not_eq_true',
    Bool.or_eq_true, beq_iff_eq, Option.any_eq_true, Load.Finds, loadOf]
  constructor
  · rintro ⟨l, ⟨hl, hnew, hfound⟩, rfl⟩
    exact ⟨hloaded ▸ hnew, l, hl, rfl, hfound⟩
  · rintro ⟨hnew, l, hl, rfl, hfound⟩
    exact ⟨l, ⟨hl, hloaded.trans hnew, hfound⟩, rfl⟩

theorem searchPaths_addPlace (h : Agrees base ledger c) (used : ledger.guards ≠ 0)
    {directory : String} {load : Load} (hload : load.directory = directory) :
    (c.addPlace directory).interpreter.searchPath =
        base ++ (c.addPlace directory).lease.searchPaths ∧
      (c.addPlace directory).lease.searchPaths = Ledger.places base (ledger.loads ++ [load]) := by
  have hpaths : c.lease.searchPaths = Ledger.places base ledger.loads := by
    rw [h.searchPaths, if_neg used]
  rw [Ledger.places_append_singleton, hload, ← hpaths, ← h.searchPath]
  obtain ⟨hthere, heq⟩ | ⟨hnew, heq⟩ := c.addPlace_cases directory
  · rw [heq, if_pos (List.contains_iff_mem.mp hthere)]
    exact ⟨h.searchPath, rfl⟩
  · have hnot : directory ∉ c.interpreter.searchPath := by
      rw [← List.contains_iff_mem, hnew]
      exact Bool.false_ne_true
    rw [heq, if_neg hnot]
    refine ⟨?_, rfl⟩
    simp only [h.searchPath, List.append_assoc]

theorem load (h : Agrees base ledger c) (used : 0 < c.lease.users) (directory module : String) :
    Agrees base (ledger.turn (.load (c.loadOf directory module))) (c.loadFrom directory module) := by
  have hused : ledger.guards ≠ 0 := by
    rw [← h.users]
    exact Nat.ne_of_gt used
  have hload := confined_load module (c.addPlace directory)
  have hgeneration : (c.addPlace directory).lease.generation = c.lease.generation ∧
      (c.addPlace directory).lease.tracked = c.lease.tracked := by
    obtain ⟨_, heq⟩ | ⟨_, heq⟩ := c.addPlace_cases directory <;> rw [heq] <;> exact ⟨rfl, rfl⟩
  have hdirectory : (c.loadOf directory module).directory = directory := rfl
  obtain ⟨hpath, hpaths⟩ := h.searchPaths_addPlace hused hdirectory
  refine ⟨?_, ?_, ?_, ?_, ?_, fun hnone => absurd hnone hused⟩
  · rw [users_loadFrom, h.users]
    rfl
  · change ((c.addPlace directory).load module).2.lease.generation = ledger.sessions
    rw [hload.lease, hgeneration.1, h.generation]
  · change ((c.addPlace directory).load module).2.interpreter.searchPath =
      base ++ ((c.addPlace directory).load module).2.lease.searchPaths
    rw [hload.lease, hload.searchPath, hpath]
  · change ((c.addPlace directory).load module).2.lease.searchPaths =
      if ledger.guards = 0 then [] else _
    rw [hload.lease, hpaths, if_neg hused]
    rfl
  · intro name
    change name ∈ List.foldl addName ((c.addPlace directory).load module).2.lease.tracked _ ↔
      ledger.guards ≠ 0 ∧ ∃ load ∈ ledger.loads ++ [c.loadOf directory module], load.Finds name
    rw [hload.lease, hgeneration.2, mem_foldl_addName, h.tracked, mem_newModules_iff]
    simp only [List.mem_append, List.mem_singleton, or_and_right, exists_or, exists_eq_left, hused,
      ne_eq, not_false_eq_true, true_and]

theorem leave (h : Agrees base ledger c) (used : 0 < c.lease.users) :
    Agrees base (ledger.turn .leave) c.release := by
  have hused : ledger.guards ≠ 0 := by
    rw [← h.users]
    exact Nat.ne_of_gt used
  by_cases hmore : 0 < c.lease.users - 1
  · have hguards : ledger.guards - 1 ≠ 0 := by
      rw [← h.users]
      exact Nat.ne_of_gt hmore
    have hrelease : c.release = { c with lease.users := c.lease.users - 1 }.emit .debug
        s!"python runtime released, {c.lease.users - 1} live users" := if_pos hmore
    rw [hrelease]
    refine ⟨congrArg (· - 1) h.users, h.generation, h.searchPath, ?_, ?_,
      fun hnone => absurd hnone hguards⟩
    · exact h.searchPaths.trans (by rw [if_neg hused, Ledger.turn, if_neg hguards])
    · exact fun name => (h.tracked name).trans (by simp only [Ledger.turn, ne_eq, hused, hguards])
  · -- the last one to leave ends the session
    have hguards : ledger.guards - 1 = 0 := by
      rw [← h.users]
      exact Nat.eq_zero_of_not_pos hmore
    have hpath : removePlaces c.interpreter.searchPath c.lease.searchPaths = base := by
      rw [h.searchPath, h.searchPaths, if_neg hused]
      exact removePlaces_append fun place hplace => (Ledger.mem_places.mp hplace).2
    have hrelease : c.release = ({ c with lease.users := c.lease.users - 1 }.emit .debug
        s!"python runtime released, {c.lease.users - 1} live users").reset.emit .info
          s!"python runtime session {c.lease.generation} torn down" := if_neg hmore
    rw [hrelease]
    refine ⟨congrArg (· - 1) h.users, h.generation, ?_, ?_, ?_, ?_⟩
    · exact hpath.trans (List.append_nil base).symm
    · exact (if_pos hguards).symm
    · exact fun name => iff_of_false List.not_mem_nil fun hfound => hfound.1 hguards
    · intro _ load hload name hfinds
      have htracked : name ∈ c.lease.tracked := (h.tracked name).mpr ⟨hused, load, hload, hfinds⟩
      change (c.interpreter.modules.filter fun l => !c.lease.tracked.contains l.name).any
        (·.name == name) = false
      rw [List.any_eq_false]
      intro l hl hname
      rw [List.mem_filter, beq_iff_eq.mp hname] at hl
      simp [htracked] at hl

end Agrees

theorem Passes.agrees {base : List String} {ledger : Ledger} {turns : List Turn}
    (h : Passes c turns c') (hagrees : Agrees base ledger c) :
    Agrees base (ledger.after turns) c' := by
  induction h with
  | done => exact hagrees
  | work _ hwork ih => exact ih.work hwork
  | join _ ih =>
    rw [Ledger.after_append]
    exact ih.join
  | load _ used directory module ih =>
    rw [Ledger.after_append]
    exact ih.load used directory module
  | leave _ used ih =>
    rw [Ledger.after_append]
    exact ih.leave used

end Coupling

/-! ## Who is alive -/

theorem countP_of_getElem? {α : Type} {p : α → Bool} {l : List α} {i : Nat} {a : α}
    (h : l[i]? = some a) (b : α) :
    (l.eraseIdx i).countP p + (if p a then 1 else 0) = l.countP p ∧
      (l.set i b).countP p + (if p a then 1 else 0) = l.countP p + (if p b then 1 else 0) := by
  induction l generalizing i with
  | nil => exact nomatch h
  | cons x xs ih =>
    cases i with
    | zero =>
      cases h
      simp only [List.eraseIdx_zero, List.tail_cons, List.set_cons_zero, List.countP_cons]
      exact ⟨trivial, Nat.add_right_comm _ _ _⟩
    | succ i =>
      obtain ⟨herase, hset⟩ := ih (i := i) h
      simp only [List.eraseIdx_cons_succ, List.set_cons_succ, List.countP_cons]
      constructor
      · rw [Nat.add_right_comm, herase]
      · rw [Nat.add_right_comm, hset, Nat.add_right_comm]

/-- A call moves the number of users by what becomes of the action. -/
theorem ScriptedAction.guards_turns {a : ScriptedAction} {ledger : Ledger}
    (used : a.isLoaded = true → 0 < ledger.guards) (step : Step) (c : Coupling) :
    (ledger.after (a.turns step c)).guards + (if a.isLoaded then 1 else 0) =
      ledger.guards + if (a.perform step c).action.isLoaded then 1 else 0 := by
  cases h : a.state with
  | unloaded =>
    have hnot : a.isLoaded = false := by rw [isLoaded, h]
    simp only [turns, h, hnot]
    cases (a.perform step c).action.isLoaded <;> simp
  | ready hooks =>
    have hloaded : a.isLoaded = true := by rw [isLoaded, h]
    have hpos := used hloaded
    simp only [turns, h, hloaded]
    cases (a.perform step c).action.isLoaded
    · simp
      omega
    · simp
  | failed e =>
    have hnot : a.isLoaded = false := by rw [isLoaded, h]
    simp only [turns, h, perform_failed h, hnot]
    simp

namespace Usage

variable {u : Usage}

theorem guards_turnsOf {ledger : Ledger} (hguards : ledger.guards = u.alive) (e : UsageEvent) :
    (ledger.after (u.turnsOf e)).guards = (u.apply e).alive := by
  cases e with
  | create timing path module mesh source target =>
    simp [apply, turnsOf, alive, hguards, ScriptedAction.isLoaded, ScriptedAction.new]
  | perform i step =>
    cases ha : u.actions[i]? with
    | none =>
      simp only [apply, turnsOf, ha]
      exact hguards
    | some a =>
      have hset := (countP_of_getElem? (p := (·.isLoaded)) ha
        (a.perform step u.coupling).action).2
      have hused : a.isLoaded = true → 0 < ledger.guards := by
        intro hloaded
        have hpos : 0 < u.actions.countP (·.isLoaded) :=
          List.countP_pos_iff.mpr ⟨a, List.mem_of_getElem? ha, hloaded⟩
        rw [hguards]
        exact Nat.add_pos_left hpos _
      have hturns := ScriptedAction.guards_turns hused step u.coupling
      simp only [apply, turnsOf, ha, alive] at hguards ⊢
      omega
  | drop i =>
    cases ha : u.actions[i]? with
    | none =>
      simp only [apply, turnsOf, ha]
      exact hguards
    | some a =>
      have herase := (countP_of_getElem? (p := (·.isLoaded)) ha a).1
      simp only [apply, turnsOf, ha, alive, Option.any_some] at hguards ⊢
      cases hloaded : a.isLoaded <;> simp [hloaded] at herase ⊢ <;> omega
  | acquire => simp [apply, turnsOf, alive, hguards, Nat.add_assoc]
  | release =>
    simp only [apply, turnsOf]
    split
    · exact hguards
    · rename_i hsome
      simp only [alive, Ledger.after_cons, Ledger.after_nil, Ledger.guards_leave] at hguards ⊢
      omega
  | meshes cells => exact hguards
  | write path code => exact hguards

/-- Who uses the interpreter is counted, and a ledger of the turns agrees with what is recorded. -/
structure Accounts (base : List String) (ledger : Ledger) (u : Usage) : Prop
    extends Coupling.Agrees base ledger u.coupling where
  guards : ledger.guards = u.alive

theorem accounts_start (disk : Disk) (searchPath : List String) (modules : List Loaded) :
    Accounts searchPath .empty (start disk searchPath modules) where
  users := rfl
  generation := rfl
  searchPath := (List.append_nil searchPath).symm
  searchPaths := rfl
  tracked _ := iff_of_false List.not_mem_nil fun hfound => hfound.1 rfl
  forgotten _ _ hload := nomatch hload
  guards := rfl

/-- From event to event, users take turns, and the accounts are kept. -/
theorem passes_run {base : List String} {ledger : Ledger} (h : Accounts base ledger u)
    (events : List UsageEvent) :
    Coupling.Passes u.coupling (u.turns events) (u.run events).coupling ∧
      Accounts base (ledger.after (u.turns events)) (u.run events) := by
  induction events generalizing u ledger with
  | nil => exact ⟨.done u.coupling, h⟩
  | cons e events ih =>
    have hpasses := passes_apply (h.users.trans h.guards) e
    have happlied : Accounts base (ledger.after (u.turnsOf e)) (u.apply e) :=
      ⟨hpasses.agrees h.toAgrees, guards_turnsOf h.guards e⟩
    obtain ⟨hrest, haccounts⟩ := ih happlied
    refine ⟨hpasses.trans hrest, ?_⟩
    rw [turns, Ledger.after_append]
    exact haccounts

/-- Whatever actions and guards do, the interpreter counts the actions that are ready and the
guards. In terms of the ledger: users take turns, nobody leaves who has not joined, and a session
has begun whenever somebody joined when there was no user. While there is none, nothing is recorded
and the places that are searched are those from the beginning; while there are users, these are
followed by the directories of the loads of the session that were not there, each of them once. -/
theorem sessions_counted (disk : Disk) (searchPath : List String) (modules : List Loaded)
    (events : List UsageEvent) :
    let first := start disk searchPath modules
    let u := first.run events
    let ledger := Ledger.empty.after (first.turns events)
    Coupling.Passes first.coupling (first.turns events) u.coupling ∧
      u.coupling.lease.users = u.actions.countP (·.isLoaded) + u.guards ∧
      ledger.guards = u.coupling.lease.users ∧
      (u.coupling.isInitialized = true ↔ 0 < u.actions.countP (·.isLoaded) + u.guards) ∧
      u.coupling.lease.generation = ledger.sessions ∧
      (u.coupling.lease.users = 0 →
        u.coupling.lease.searchPaths = [] ∧ u.coupling.lease.tracked = []) ∧
      u.coupling.interpreter.searchPath = searchPath ++
        if u.coupling.lease.users = 0 then [] else Ledger.places searchPath ledger.loads := by
  intro first u ledger
  obtain ⟨hpasses, haccounts⟩ := passes_run (accounts_start disk searchPath modules) events
  have halive : u.coupling.lease.users = u.alive := haccounts.users.trans haccounts.guards
  have husers : u.coupling.lease.users = ledger.guards := haccounts.users
  refine ⟨hpasses, halive, husers.symm, ?_, haccounts.generation, ?_, ?_⟩
  · rw [Coupling.isInitialized, decide_eq_true_iff, halive]
    rfl
  · intro hnone
    rw [husers] at hnone
    refine ⟨haccounts.searchPaths.trans (if_pos hnone), List.eq_nil_iff_forall_not_mem.mpr ?_⟩
    exact fun name hname => ((haccounts.tracked name).mp hname).1 hnone
  · rw [husers]
    exact haccounts.searchPath.trans (congrArg (searchPath ++ ·) haccounts.searchPaths)

end Usage

end FieldMesh

import FieldMesh.Proofs.Imports
import FieldMesh.Proofs.Sessions

/-! # The end of a session

When the last user leaves, the modules that the loads of the session have found are forgotten. A
module that is loaded and that no load has found stays loaded for good: it was there before, or it
was imported in some other way than by a load, or from another directory than that of the load.
-/

namespace FieldMesh

namespace Coupling

variable {c c' : Coupling} {name : String}

theorem isLoaded_release (hloaded : c.interpreter.isLoaded name = true)
    (huntracked : name ∉ c.lease.tracked) : c.release.interpreter.isLoaded name = true := by
  simp only [release]
  split
  · exact hloaded
  · obtain ⟨l, hl, hname⟩ := List.any_eq_true.mp hloaded
    refine List.any_eq_true.mpr ⟨l, List.mem_filter.mpr ⟨hl, ?_⟩, hname⟩
    change (!c.lease.tracked.contains l.name) = true
    rw [beq_iff_eq.mp hname]
    simpa using huntracked

/-- A module stays loaded that no load of the session has found, and no later load finds it. The
induction is on the turns. -/
theorem Passes.stays {base : List String} {ledger : Ledger} {turns : List Turn}
    (h : Passes c turns c') (hagrees : Agrees base ledger c)
    (hloaded : c.interpreter.isLoaded name = true)
    (hunfound : ledger.guards ≠ 0 → ∀ load ∈ ledger.loads, ¬ load.Finds name) :
    c'.interpreter.isLoaded name = true ∧ (∀ load, .load load ∈ turns → ¬ load.Finds name) ∧
      ((ledger.after turns).guards ≠ 0 →
        ∀ load ∈ (ledger.after turns).loads, ¬ load.Finds name) := by
  induction h with
  | done => exact ⟨hloaded, fun _ hload => absurd hload List.not_mem_nil, hunfound⟩
  | work _ hwork ih =>
    obtain ⟨hname, hturns, hledger⟩ := ih
    exact ⟨hwork.loaded name hname, hturns, hledger⟩
  | join _ ih =>
    obtain ⟨hname, hturns, hledger⟩ := ih
    refine ⟨by rwa [interpreter_acquire], ?_, ?_⟩
    · intro load hload
      rcases List.mem_append.mp hload with hload | hload
      · exact hturns load hload
      · cases List.mem_singleton.mp hload
    · rw [Ledger.after_append, Ledger.after_cons, Ledger.after_nil, Ledger.turn]
      split
      · exact fun _ load hload => absurd hload List.not_mem_nil
      · rename_i hused
        exact fun _ => hledger hused
  | @load placed _ hpasses used directory module ih =>
    obtain ⟨hname, hturns, hledger⟩ := ih
    have hbefore : (placed.addPlace directory).interpreter.isLoaded name = true := by
      obtain ⟨_, heq⟩ | ⟨_, heq⟩ := placed.addPlace_cases directory <;> rwa [heq]
    have hunfinds : ¬ (placed.loadOf directory module).Finds name :=
      fun hfinds => Bool.false_ne_true (hfinds.1.symm.trans hbefore)
    refine ⟨(confined_load module _).loaded name hbefore, ?_, ?_⟩
    · intro load hload
      rcases List.mem_append.mp hload with hload | hload
      · exact hturns load hload
      · cases List.mem_singleton.mp hload
        exact hunfinds
    · rw [Ledger.after_append]
      intro hused load hload
      rcases List.mem_append.mp hload with hload | hload
      · exact hledger hused load hload
      · cases List.mem_singleton.mp hload
        exact hunfinds
  | @leave left _ hpasses used ih =>
    obtain ⟨hname, hturns, hledger⟩ := ih
    have hledger' := hpasses.agrees hagrees
    refine ⟨isLoaded_release hname ?_, ?_, ?_⟩
    · intro htracked
      obtain ⟨hused, load, hload, hfinds⟩ := (hledger'.tracked name).mp htracked
      exact hledger hused load hload hfinds
    · intro load hload
      rcases List.mem_append.mp hload with hload | hload
      · exact hturns load hload
      · cases List.mem_singleton.mp hload
    · rw [Ledger.after_append]
      intro hmore
      exact hledger fun hnone => hmore (by simp [hnone])

end Coupling

namespace Usage

/-- Whatever actions and guards do, once nobody uses the interpreter no module is loaded that a load
of the last session has found. Every other module stays: one that is loaded at any moment, and that
no load of the session has found so far, is loaded ever after, and no load finds it. In particular
what is loaded while nobody uses the interpreter stays. -/
theorem found_forgotten (disk : Disk) (searchPath : List String) (modules : List Loaded)
    (events : List UsageEvent) :
    let first := start disk searchPath modules
    let u := first.run events
    let ledger := Ledger.empty.after (first.turns events)
    (u.coupling.lease.users = 0 → ∀ load ∈ ledger.loads, ∀ name, load.Finds name →
      u.coupling.interpreter.isLoaded name = false) ∧
    ∀ name, u.coupling.interpreter.isLoaded name = true →
      (u.coupling.lease.users ≠ 0 → ∀ load ∈ ledger.loads, ¬ load.Finds name) →
        ∀ later, (u.run later).coupling.interpreter.isLoaded name = true ∧
          ∀ load, .load load ∈ u.turns later → ¬ load.Finds name := by
  intro first u ledger
  obtain ⟨-, haccounts⟩ := passes_run (accounts_start disk searchPath modules) events
  have husers : u.coupling.lease.users = ledger.guards := haccounts.users
  constructor
  · intro hnone
    exact haccounts.forgotten (husers.symm.trans hnone)
  · intro name hloaded hunfound later
    rw [husers] at hunfound
    obtain ⟨hpasses, -⟩ := passes_run haccounts later
    obtain ⟨hstays, hturns, -⟩ := hpasses.stays haccounts.toAgrees hloaded hunfound
    exact ⟨hstays, hturns⟩

/-! ## A module that outlives its session -/

def importing : Code where
  top := .done (.ok ())
  perform := some fun _ _ => .query (.load "helper")
  vertex := none
  post := none
  asarray := none

def blank : Code := ⟨.done (.ok ()), none, none, none, none⟩

def pair : Disk := ⟨"/w", [(["act"], importing), (["helper"], blank)]⟩

def importer : ScriptedAction := .new .regularPost "" "act" ⟨0⟩ none none

def importerEvents : List UsageEvent :=
  [.create .regularPost "" "act" ⟨0⟩ none none, .perform 0 ⟨0, 0, 0, 0⟩, .drop 0]

theorem path?_pair : pair.path? "/w" = some [] := by
  have hroot : "/w".splitOn "/" = ["", "w"] := Splitting.splitOn_ofList ['/', 'w'] '/'
  simp [Disk.path?, Disk.names?, pair, hroot, Disk.walk]

theorem canonical_pair : pair.canonical "." = "/w" := by
  have hroot : "/w".splitOn "/" = ["", "w"] := Splitting.splitOn_ofList ['/', 'w'] '/'
  have hdot : ".".splitOn "/" = ["."] := Splitting.splitOn_ofList ['.'] '/'
  have hpath : pair.path? "." = some [] := by
    simp [Disk.path?, Disk.names?, pair, hroot, hdot, Disk.walk, Disk.isDirectory]
  rw [Disk.canonical, hpath]
  rfl

/-- The directory of the two modules is searched. -/
structure Rooted (c : Coupling) : Prop where
  disk : c.interpreter.disk = pair
  searchPath : c.interpreter.searchPath = ["/w"]
  barren : c.interpreter.barren = []

namespace Rooted

variable {c : Coupling} {name : String}

theorem search_eq (h : Rooted c) (name : String) :
    c.search name ["/w"] = (pair.search name ["/w"], c) := by
  have hplace : pair.isPlace "/w" = true := by simp [Disk.isPlace, path?_pair, Disk.isDirectory]
  have hnone : ((c.interpreter.disk.passed name (c.interpreter.fertile ["/w"])).filter
      fun place => !c.interpreter.disk.isPlace place) = [] := by
    rw [List.filter_eq_nil_iff]
    intro place hpassed
    have hmem := List.mem_filter.mp ((Disk.passed_sublist _ _ _).subset hpassed)
    rw [List.mem_singleton.mp hmem.1, h.disk, hplace]
    exact Bool.false_ne_true
  have hsame : c.interpreter.remember name ["/w"] = c.interpreter := by
    rw [Interpreter.remember, hnone, List.append_nil]
  rw [Coupling.search, hsame, Interpreter.search, Interpreter.fertile, h.barren, h.disk]
  rfl

theorem load_file (h : Rooted c) {code : Code} (hflat : name.splitOn "." = [name])
    (hname : name ≠ "") (hstandard : Standard.holds name = false)
    (hnew : c.interpreter.isLoaded name = false)
    (hfound : pair.search name ["/w"] = (.file [name] code none, []))
    (htop : code.top = .done (.ok ())) :
    c.load name = (.ok (), c.setInterpreter
      ((c.interpreter.enter (.fresh name (some (pair.text [name] ++ Disk.ending)) none
        code)).modifyModule name Loaded.define)) := by
  rw [Coupling.load_of_search hflat hname hstandard hnew, h.searchPath, h.search_eq, hfound]
  simp only [Coupling.importFound, Coupling.loadFile, h.disk, htop]
  rfl

theorem load_act (h : Rooted c) (hnew : c.interpreter.isLoaded "act" = false) :
    c.load "act" = (.ok (), c.setInterpreter ((c.interpreter.enter
      (.fresh "act" (some "/w/act.py") none importing)).modifyModule "act" Loaded.define)) := by
  have hfound : pair.search "act" ["/w"] = (.file ["act"] importing none, []) := by
    simp only [Disk.search, Disk.find, path?_pair]
    rfl
  exact h.load_file (Splitting.splitOn_ofList ['a', 'c', 't'] '.') (by decide) (by decide +kernel)
    hnew hfound rfl

theorem load_helper (h : Rooted c) (hnew : c.interpreter.isLoaded "helper" = false) :
    c.load "helper" = (.ok (), c.setInterpreter ((c.interpreter.enter
      (.fresh "helper" (some "/w/helper.py") none blank)).modifyModule "helper" Loaded.define)) := by
  have hfound : pair.search "helper" ["/w"] = (.file ["helper"] blank none, []) := by
    simp only [Disk.search, Disk.find, path?_pair]
    rfl
  exact h.load_file (Splitting.splitOn_ofList ['h', 'e', 'l', 'p', 'e', 'r'] '.') (by decide)
    (by decide +kernel) hnew hfound rfl

theorem load_numpy (h : Rooted c) (hnew : c.interpreter.isLoaded "numpy" = false) :
    c.load "numpy" = (.error (Coupling.notFound "numpy"), c) := by
  have hfound : pair.search "numpy" ["/w"] = (.nothing, []) := by
    simp only [Disk.search, Disk.find, path?_pair]
    rfl
  rw [Coupling.load_of_search (Splitting.splitOn_ofList ['n', 'u', 'm', 'p', 'y'] '.') (by decide)
    (by decide +kernel) hnew, h.searchPath, h.search_eq, hfound]
  rfl

end Rooted

def importingHooks : Hooks := ⟨fun _ _ => .query (.load "helper"), none, none, none⟩

def pairStart : Coupling := (start pair [] []).coupling

theorem loadFrom_pairStart : pairStart.acquire.loadFrom "/w" "act" =
    (((pairStart.acquire.addPlace "/w").setInterpreter
      { (pairStart.acquire.addPlace "/w").interpreter with
        modules := [.fresh "act" (some "/w/act.py") none importing] }).track ["act"]) := by
  have hrooted : Rooted (pairStart.acquire.addPlace "/w") := ⟨rfl, rfl, rfl⟩
  simp only [Coupling.loadFrom, hrooted.load_act rfl]
  rfl

theorem importHooks_pairStart : ∃ c, ScriptedAction.importHooks "act" "/w" pairStart =
    (.ok importingHooks, c) ∧ Rooted c ∧ c.cells = [] ∧
      c.lease = ⟨1, 1, ["/w"], ["act"]⟩ ∧ c.interpreter.isLoaded "helper" = false := by
  have hrooted : Rooted (pairStart.acquire.addPlace "/w") := ⟨rfl, rfl, rfl⟩
  have hloaded : Rooted (pairStart.acquire.loadFrom "/w" "act") := by
    rw [loadFrom_pairStart]
    exact ⟨rfl, rfl, rfl⟩
  rw [ScriptedAction.importHooks_eq, hrooted.load_act rfl]
  simp only [ScriptedAction.takeHooks, hloaded.load_numpy (by rw [loadFrom_pairStart]; rfl)]
  rw [loadFrom_pairStart]
  exact ⟨_, rfl, ⟨rfl, rfl, rfl⟩, rfl, rfl, rfl⟩

theorem Rooted.runHooks_eq {c : Coupling} {a : ScriptedAction} (h : Rooted c)
    (hcells : c.cells = []) (hnew : c.interpreter.isLoaded "helper" = false)
    (hsource : a.source = none) (htarget : a.target = none) (step : Step) :
    ∃ c', a.runHooks importingHooks step c = (.ok (), c') ∧ c'.lease = c.lease ∧
      .fresh "helper" (some "/w/helper.py") none blank ∈ c'.interpreter.modules := by
  have hselect (c' : Coupling) (h : c'.cells = []) : a.select c' = .ok ⟨none, none⟩ := by
    rw [ScriptedAction.select, hsource, htarget, Coupling.mesh, Coupling.cell?, h]
    rfl
  have hrooted : Rooted (c.setInterpreter c.interpreter.retire) := ⟨h.disk, h.searchPath, h.barren⟩
  -- No field is lent, so the loans end as they began and only the import is left to run.
  have hlent : a.lendAll importingHooks ⟨none, none⟩ (c.setInterpreter c.interpreter.retire) =
    (.ok [], _) := rfl
  have hrun : (c.setInterpreter c.interpreter.retire).run a.module
      (importingHooks.perform [step.time, step.length, step.computed, step.window] []) = _ :=
    hrooted.load_helper hnew
  simp only [ScriptedAction.runHooks, hselect c hcells, ScriptedAction.runPerform_of_lent hlent,
    List.map_nil, hrun, Coupling.endLoans, ScriptedAction.settle, List.find?_nil, List.head?_nil,
    List.filter_nil, Except.mapError]
  rw [hselect _ (by exact hcells)]
  refine ⟨_, rfl, rfl, List.mem_map.mpr ⟨.fresh "helper" (some "/w/helper.py") none blank, ?_, rfl⟩⟩
  exact List.mem_append_right _ (List.mem_singleton_self _)

theorem Rooted.performReady_eq {c : Coupling} {a : ScriptedAction} (h : Rooted c)
    (hcells : c.cells = []) (hnew : c.interpreter.isLoaded "helper" = false)
    (hsource : a.source = none) (htarget : a.target = none) (step : Step) :
    ∃ c', a.performReady importingHooks step c = ⟨.ok (), a, c'⟩ ∧ c'.lease = c.lease ∧
      .fresh "helper" (some "/w/helper.py") none blank ∈ c'.interpreter.modules := by
  have hfree : c.checkFree a.mesh = .ok () := by
    rw [Coupling.checkFree_eq_ok_iff, Coupling.borrow, Coupling.cell?, hcells]
    rfl
  have htaken : Rooted (c.setBorrow a.mesh .exclusive) := ⟨h.disk, h.searchPath, h.barren⟩
  obtain ⟨c', hran, hlease, hhelper⟩ := htaken.runHooks_eq
    (by simp [Coupling.setBorrow, hcells]) hnew hsource htarget step
  exact ⟨c'.setBorrow a.mesh .free, by simp only [ScriptedAction.performReady, hfree, hran], hlease,
    hhelper⟩

/-- The action is ready after its first call, and the second module is loaded. -/
theorem perform_importer (step : Step) :
    ∃ c, importer.perform step pairStart =
        ⟨.ok (), { importer with state := .ready importingHooks }, c⟩ ∧
      c.lease = ⟨1, 1, ["/w"], ["act"]⟩ ∧
      .fresh "helper" (some "/w/helper.py") none blank ∈ c.interpreter.modules := by
  obtain ⟨c, himport, hrooted, hcells, hlease, hnew⟩ := importHooks_pairStart
  obtain ⟨done, hdone, hkept, hhelper⟩ := hrooted.performReady_eq
    (a := { importer with state := .ready importingHooks }) hcells hnew rfl rfl step
  have hdirectory : importer.directory pairStart.interpreter.disk = "/w" := canonical_pair
  have hensured : importer.ensureLoaded pairStart = (.ready importingHooks, c) := by
    rw [← hdirectory] at himport
    simp only [ScriptedAction.ensureLoaded, importer, ScriptedAction.new] at himport ⊢
    rw [himport]
  refine ⟨done, ?_, hkept.trans hlease, hhelper⟩
  rw [ScriptedAction.perform, hensured]
  exact hdone

/-- The second module is imported by a function, from the directory of the session. When the only
user has left, it is still loaded. -/
theorem helper_outlives_session :
    let first := start pair [] []
    let u := first.run importerEvents
    first.coupling.interpreter.isLoaded "helper" = false ∧
      (∃ load ∈ (Ledger.empty.after (first.turns importerEvents)).loads,
        load.directory = "/w") ∧
      u.coupling.lease.users = 0 ∧
      ∃ l ∈ u.coupling.interpreter.modules, l.name = "helper" ∧ l.file = some "/w/helper.py" ∧
        Coupling.liesIn "/w" "/w/helper.py" = true := by
  intro first u
  obtain ⟨done, hperform, hlease, hhelper⟩ := perform_importer ⟨0, 0, 0, 0⟩
  have happly : (⟨[importer], 0, pairStart⟩ : Usage).apply (.perform 0 ⟨0, 0, 0, 0⟩) =
      ⟨[{ importer with state := .ready importingHooks }], 0, done⟩ := by
    simp only [apply, List.getElem?_cons_zero, hperform, List.set_cons_zero]
  have hu : u = ⟨[], 0, done.release⟩ := by
    change ((⟨[importer], 0, pairStart⟩ : Usage).apply (.perform 0 ⟨0, 0, 0, 0⟩)).apply (.drop 0) = _
    rw [happly]
    rfl
  refine ⟨rfl, ⟨pairStart.acquire.loadOf "/w" "act", ?_, rfl⟩, ?_, ?_⟩
  · have hturns : first.turns importerEvents =
        importer.turns ⟨0, 0, 0, 0⟩ pairStart ++ ([.leave] ++ []) := by
      change importer.turns ⟨0, 0, 0, 0⟩ pairStart ++
        (((⟨[importer], 0, pairStart⟩ : Usage).apply (.perform 0 ⟨0, 0, 0, 0⟩)).turnsOf (.drop 0) ++
          []) = _
      rw [happly]
      rfl
    have hcall : importer.turns ⟨0, 0, 0, 0⟩ pairStart =
        [.join, .load (pairStart.acquire.loadOf "/w" "act")] := by
      have hdirectory : importer.directory pairStart.interpreter.disk = "/w" := canonical_pair
      rw [ScriptedAction.turns, hperform, hdirectory]
      rfl
    rw [hturns, hcall]
    exact List.mem_singleton_self _
  · rw [hu]
    simp only [Coupling.users_release, hlease]
  · have hfile : "/w/helper.py".splitOn "/" = ["", "w", "helper.py"] := Splitting.splitOn_ofList
      ['/', 'w', '/', 'h', 'e', 'l', 'p', 'e', 'r', '.', 'p', 'y'] '/'
    have hroot : "/w".splitOn "/" = ["", "w"] := Splitting.splitOn_ofList ['/', 'w'] '/'
    have hlies : Coupling.liesIn "/w" "/w/helper.py" = true := by
      rw [Coupling.liesIn, hfile, hroot]
      rfl
    refine ⟨.fresh "helper" (some "/w/helper.py") none blank, ?_, rfl, rfl, hlies⟩
    rw [hu]
    simp only [Coupling.release, hlease]
    exact List.mem_filter.mpr ⟨hhelper, rfl⟩

end Usage

end FieldMesh

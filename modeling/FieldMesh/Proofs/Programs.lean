import FieldMesh.Proofs.Numbered
import FieldMesh.Proofs.Validation
import FieldMesh.Script.Session
import Mathlib.Logic.Relation

/-! # What user code does and leaves alone

A program of a user module, and an import with all the programs that it runs, is a sequence of
small steps. A step notes something, writes a value through an exporter, changes the objects of the
interpreter or a loaded module, takes up a module or forgets one. What no step changes user code
leaves alone: who uses the interpreter, how the meshes are in use, the places that are searched and
what the exporters stand for. Modules that were loaded before stay loaded.
-/

namespace FieldMesh

/-- A module after a change that leaves what it is. -/
structure Loaded.Same (l l' : Loaded) : Prop where
  name : l'.name = l.name
  file : l'.file = l.file
  code : l'.code = l.code

namespace Coupling

variable {c c' c'' : Coupling} {stays : String → Prop}

/-- A step of user code; the modules of some names stay loaded. -/
inductive UserStep (stays : String → Prop) : Coupling → Coupling → Prop where
  | note (c : Coupling) (n : Note) : UserStep stays c (c.note n)
  | write (c : Coupling) (exporter position : Nat) (x : Float)
    (writable : (c.exporter exporter).writable = true) :
    UserStep stays c (c.setValue (c.exporter exporter).memory position x)
  /-- Lists, holds, garbage, stored objects and the places known to be barren change. -/
  | objects (c : Coupling) (lists : List (List Value)) (holds : Nat) (garbage stored : List Object)
    (barren : List String) :
    UserStep stays c (c.setInterpreter
      { c.interpreter with lists, holds, garbage, stored, barren })
  | modify (c : Coupling) (name : String) (f : Loaded → Loaded) (same : ∀ l : Loaded, l.Same (f l)) :
    UserStep stays c (c.setInterpreter (c.interpreter.modifyModule name f))
  | enter (c : Coupling) (l : Loaded) :
    UserStep stays c (c.setInterpreter (c.interpreter.enter l))
  | unload (c : Coupling) (name : String) (forgettable : ¬ stays name) :
    UserStep stays c (c.setInterpreter (c.interpreter.unload [name]))

theorem UserStep.mono {stays' : String → Prop} (h : UserStep stays c c')
    (hstays : ∀ name, stays' name → stays name) : UserStep stays' c c' := by
  cases h with
  | note n => exact .note c n
  | write exporter position x writable => exact .write c exporter position x writable
  | objects lists holds garbage stored barren => exact .objects c lists holds garbage stored barren
  | modify name f same => exact .modify c name f same
  | enter l => exact .enter c l
  | unload name forgettable => exact .unload c name (forgettable ∘ hstays name)

/-- The modules that stay are still loaded after a step. -/
theorem UserStep.stay (h : UserStep stays c c') {name : String} (hname : stays name)
    (hloaded : c.interpreter.isLoaded name = true) : c'.interpreter.isLoaded name = true := by
  cases h with
  | note n => exact hloaded
  | write exporter position x writable =>
    cases hmemory : (c.exporter exporter).memory <;> exact hloaded
  | objects lists holds garbage stored barren => exact hloaded
  | modify name' f same =>
    simp only [Interpreter.isLoaded, setInterpreter, Interpreter.modifyModule, List.any_map,
      List.any_eq_true, Function.comp_apply] at hloaded ⊢
    obtain ⟨l, hl, hname⟩ := hloaded
    refine ⟨l, hl, ?_⟩
    split
    · rwa [(same l).name]
    · exact hname
  | enter l =>
    simp only [Interpreter.isLoaded, setInterpreter, Interpreter.enter, List.any_append] at hloaded ⊢
    rw [hloaded, Bool.true_or]
  | unload name' forgettable =>
    have hne : name ≠ name' := fun h => forgettable (h ▸ hname)
    simp only [Interpreter.isLoaded, setInterpreter, Interpreter.unload, List.any_filter,
      List.any_eq_true] at hloaded ⊢
    obtain ⟨l, hl, hname⟩ := hloaded
    refine ⟨l, hl, ?_⟩
    rw [beq_iff_eq] at hname
    simp [hname, hne]

/-- User code leads from one coupling to another, and what was loaded before stays loaded. -/
def UserRun (c c' : Coupling) : Prop :=
  Relation.ReflTransGen (UserStep fun name => c.interpreter.isLoaded name = true) c c'

namespace UserRun

theorem refl (c : Coupling) : c.UserRun c := Relation.ReflTransGen.refl

theorem isLoaded (h : c.UserRun c') {name : String}
    (hname : c.interpreter.isLoaded name = true) : c'.interpreter.isLoaded name = true := by
  unfold UserRun at h
  induction h with
  | refl => exact hname
  | tail _ hstep ih => exact hstep.stay hname ih

theorem trans (h₁ : c.UserRun c') (h₂ : c'.UserRun c'') : c.UserRun c'' :=
  Relation.ReflTransGen.trans h₁ (Relation.ReflTransGen.mono
    (fun _ _ hstep => UserStep.mono hstep fun _ hname => h₁.isLoaded hname) _ _ h₂)

theorem of_eq {α : Type} {r : α × Coupling} {x : α} (h : c.UserRun r.2) (heq : r = (x, c')) :
    c.UserRun c' := by
  rwa [heq] at h

theorem note (c : Coupling) (n : Note) : c.UserRun (c.note n) := .single (.note c n)

theorem objects (c : Coupling) (lists : List (List Value)) (holds : Nat)
    (garbage stored : List Object) (barren : List String) :
    c.UserRun (c.setInterpreter { c.interpreter with lists, holds, garbage, stored, barren }) :=
  .single (.objects c lists holds garbage stored barren)

theorem modify (c : Coupling) (name : String) {f : Loaded → Loaded}
    (same : ∀ l : Loaded, l.Same (f l)) :
    c.UserRun (c.setInterpreter (c.interpreter.modifyModule name f)) :=
  .single (.modify c name f same)

theorem enter (c : Coupling) (l : Loaded) :
    c.UserRun (c.setInterpreter (c.interpreter.enter l)) := .single (.enter c l)

theorem setItems (c : Coupling) (ref : Nat) (items : List Value) :
    c.UserRun (c.setInterpreter (c.interpreter.setItems ref items)) :=
  .objects c _ _ _ _ _

end UserRun

/-! ## Questions -/

theorem userRun_change {r : Except Exn Coupling} (h : ∀ c', r = .ok c' → c.UserRun c') :
    c.UserRun (c.change r).2 := by
  cases r with
  | error e => exact .refl c
  | ok c' => exact h c' rfl

theorem userRun_make {r : Except Exn (Object × Coupling)}
    (h : ∀ o c', r = .ok (o, c') → c.UserRun c') : c.UserRun (c.make r).2 := by
  cases r with
  | error e => exact .refl c
  | ok p => exact h p.1 p.2 rfl

theorem writeItem_window {w : Window} {x : Index} {v : Value}
    (h : c.writeItem (.window w) x v = .ok c') :
    (c.exporter w.exporter).writable = true ∧
      ∃ position number, c' = c.setValue (c.exporter w.exporter).memory position number := by
  simp only [writeItem] at h
  split at h
  · rename_i writable
    obtain ⟨index, _, h⟩ := exists_of_bind h
    obtain ⟨number, _, h⟩ := exists_of_bind h
    cases h
    exact ⟨writable, _, number, rfl⟩
  · cases h

theorem writeItem_exporter_ne_ok (c : Coupling) (id : Nat) (x : Index) (v : Value) (c' : Coupling) :
    c.writeItem (.exporter id) x v ≠ .ok c' := by
  intro h
  cases x with
  | one i =>
    obtain ⟨_, _, h⟩ := exists_of_bind h
    exact nomatch h
  | tuple is => exact nomatch h
  | list => exact nomatch h

theorem userRun_writeItem {o : Object} {x : Index} {v : Value} (h : c.writeItem o x v = .ok c') :
    c.UserRun c' := by
  cases o with
  | window w =>
    obtain ⟨writable, position, number, rfl⟩ := writeItem_window h
    exact .single (.write c w.exporter position number writable)
  | list ref =>
    obtain ⟨place, _, h⟩ := exists_of_bind h
    cases h
    exact .setItems c ref _
  | exporter id => exact absurd h (writeItem_exporter_ne_ok c id x v c')

theorem userRun_append {o : Object} {v : Value} (h : c.append o v = .ok c') : c.UserRun c' := by
  cases o with
  | list ref =>
    cases h
    exact .setItems c ref _
  | window w => exact nomatch h
  | exporter id => exact nomatch h

theorem windowOf_cases {o o' : Object} (h : c.windowOf o = .ok (o', c')) :
    (∃ w, o = .window w ∧ o' = o ∧ c' = c) ∨
      ∃ id w, o = .exporter id ∧ o' = .window w ∧ w.exporter = id ∧
        (∃ g, c.grant id windowFlags true = .ok g) ∧
        c' = c.setInterpreter { c.interpreter with holds := c.interpreter.holds + 1 } := by
  cases o with
  | window w =>
    cases h
    exact .inl ⟨w, rfl, rfl, rfl⟩
  | exporter id =>
    obtain ⟨g, hgrant, h⟩ := exists_of_bind h
    cases h
    exact .inr ⟨id, _, rfl, rfl, rfl, ⟨g, hgrant⟩, rfl⟩
  | list ref => exact nomatch h

/-- What is left of a window without its first row is one of the same exporter; what is left of a
list is a list of its own. -/
theorem tailOf_cases {o o' : Object} (h : c.tailOf o = .ok (o', c')) :
    (∃ w w', o = .window w ∧ o' = .window w' ∧ w'.exporter = w.exporter ∧ c' = c) ∨
      ∃ ref lists, o' = .list ref ∧ c' = c.setInterpreter { c.interpreter with lists } := by
  cases o with
  | window w =>
    cases h
    exact .inl ⟨w, _, rfl, rfl, rfl, rfl⟩
  | list ref =>
    cases h
    exact .inr ⟨_, _, rfl, rfl⟩
  | exporter id => exact nomatch h

theorem userRun_windowOf {o o' : Object} (h : c.windowOf o = .ok (o', c')) : c.UserRun c' := by
  obtain ⟨_, _, _, rfl⟩ | ⟨_, _, _, _, _, _, rfl⟩ := windowOf_cases h
  · exact .refl _
  · exact .objects c _ _ _ _ _

theorem userRun_tailOf {o o' : Object} (h : c.tailOf o = .ok (o', c')) : c.UserRun c' := by
  obtain ⟨_, _, _, _, _, rfl⟩ | ⟨_, _, _, rfl⟩ := tailOf_cases h
  · exact .refl _
  · exact .objects c _ _ _ _ _

/-- A question is met by steps of user code, if imports are. -/
theorem userRun_answer {load : Importer} (hload : ∀ name (c : Coupling), c.UserRun (load name c).2)
    (module : String) (c : Coupling) (q : Query) : c.UserRun (c.answer load module q).2 := by
  cases q with
  | trace record => exact .note c _
  | load name => exact hload name c
  | assign o x v => exact userRun_change fun _ => userRun_writeItem
  | append o v => exact userRun_change fun _ => userRun_append
  | window o => exact userRun_make fun _ _ => userRun_windowOf
  | tail o => exact userRun_make fun _ _ => userRun_tailOf
  | self => exact .refl c
  | kept => exact .refl c
  | item o x => exact .refl c
  | length o => exact .refl c
  | rank o => exact .refl c
  | shape o => exact .refl c
  | contents o => exact .refl c
  | describe o => exact .refl c
  | base o => exact .refl c
  | exports o => exact .refl c
  | request o flags into => exact .refl c
  | count counter => exact .modify c module fun _ => ⟨rfl, rfl, rfl⟩
  | keep o => exact .modify c module fun _ => ⟨rfl, rfl, rfl⟩
  | forget => exact .modify c module fun _ => ⟨rfl, rfl, rfl⟩
  | store o => exact .objects c _ _ _ _ _
  | abandon o => exact .objects c _ _ _ _ _
  | collect items => exact .objects c _ _ _ _ _

/-- By induction on the program. -/
theorem userRun_exec {load : Importer} (hload : ∀ name (c : Coupling), c.UserRun (load name c).2)
    (module : String) {α : Type} (p : Program α) (c : Coupling) :
    c.UserRun (exec load module p c).2 := by
  induction p generalizing c with
  | done r => exact .refl c
  | ask q next ih => exact (userRun_answer hload module c q).trans (ih _ _)

/-! ## Imports -/

theorem code?_of_search {d : Disk} {name : String} {places : List String} {path : List String}
    {code : Code} {parts : Option String} {found : List String}
    (h : d.search name places = (.file path code parts, found)) : d.code? path = some code := by
  have hfind : ∀ place, d.find place name = .file path code parts → d.code? path = some code := by
    intro place hplace
    unfold Disk.find at hplace
    split at hplace
    · split at hplace <;> exact nomatch hplace
    · dsimp only at hplace
      split at hplace
      · rename_i hcode
        cases hplace
        exact hcode
      · split at hplace
        · rename_i hcode
          cases hplace
          exact hcode
        · split at hplace <;> exact nomatch hplace
  induction places generalizing found with
  | nil => exact nomatch congrArg Prod.fst h
  | cons place rest ih =>
    unfold Disk.search at h
    split at h
    · rename_i hplace
      cases h
      exact hfind place hplace
    · exact nomatch congrArg Prod.fst h
    · split at h
      · rename_i hrest
        cases h
        exact ih hrest
      · exact nomatch congrArg Prod.fst h
      · exact nomatch congrArg Prod.fst h
    · exact ih h

/-- A relation that holds along every import if it holds along those that the file of a module asks
for: an import searches places, changes what is known of modules, takes up modules and runs files. -/
structure ImportClosed (R : Coupling → Coupling → Prop) : Prop where
  refl (c : Coupling) : R c c
  trans {c c' c'' : Coupling} (h₁ : R c c') (h₂ : R c' c'') : R c c''
  barren (c : Coupling) (barren : List String) :
    R c (c.setInterpreter { c.interpreter with barren })
  modify (c : Coupling) (name : String) {f : Loaded → Loaded} (same : ∀ l : Loaded, l.Same (f l))
    (kept : ∀ l : Loaded, (f l).kept = l.kept) :
    R c (c.setInterpreter (c.interpreter.modifyModule name f))
  enter (c : Coupling) (l : Loaded) (kept : l.kept = []) :
    R c (c.setInterpreter (c.interpreter.enter l))
  file {load : Importer} (hload : ∀ name (c : Coupling), R c (load name c).2) {c c' : Coupling}
    {name : String} {path : List String} {code : Code} (parts : Option String)
    (hcode : c'.interpreter.disk.code? path = some code) (hc : R c c')
    (hname : ¬ c.interpreter.isLoaded name = true) :
    R c (loadFile load name path code parts c').2

namespace ImportClosed

variable {R : Coupling → Coupling → Prop}

theorem of_eq {α : Type} {r : α × Coupling} {x : α} (hr : R c r.2) (heq : r = (x, c')) :
    R c c' := by
  rwa [heq] at hr

variable (h : ImportClosed R) {importer : Importer}

include h

theorem search (c : Coupling) (name : String) (places : List String) :
    R c (c.search name places).2 := h.barren c _

theorem gather (c : Coupling) (name : String) (directories places : List String) :
    R c (c.gather name directories places).2 :=
  h.modify c name (fun _ => ⟨rfl, rfl, rfl⟩) fun _ => rfl

theorem placesOf (owners : List String) (c : Coupling) : R c (placesOf owners c).2 := by
  induction owners generalizing c with
  | nil => exact h.refl c
  | cons name owners ih =>
    rw [Coupling.placesOf]
    split
    · exact h.refl c
    · split
      · exact h.refl c
      · exact h.refl c
      · rename_i former formerPlaces session _
        have hplaces : R c (Coupling.placesOf owners c).2 := ih c
        split
        · rename_i e found hfound
          exact of_eq hplaces hfound
        · rename_i places found hfound
          rw [hfound] at hplaces
          split
          · exact hplaces
          · have hsearch := h.trans hplaces (h.search found (lastPart name) places)
            split
            · rename_i searched heq
              exact of_eq hsearch heq
            · rename_i heq
              exact h.trans (of_eq hsearch heq) (h.gather _ _ _ _)
            · rename_i heq
              exact h.trans (of_eq hsearch heq) (h.gather _ _ _ _)

theorem attach (c : Coupling) (name : String) (owners : List String) :
    R c (c.attach name owners) := by
  cases owners with
  | nil => exact h.refl c
  | cons owner owners => exact h.modify c owner (fun _ => ⟨rfl, rfl, rfl⟩) fun _ => rfl

variable (hload : ∀ name (c : Coupling), R c (importer name c).2)

include hload

theorem importPart (name : String) (owners : List String) (c : Coupling) :
    R c (importPart importer name owners c).2 := by
  unfold Coupling.importPart
  split
  · exact h.refl c
  rename_i hfound
  have hname : ¬ c.interpreter.isLoaded name = true := fun h => hfound (by rw [h, Bool.true_or])
  split
  · exact h.refl c
  split
  · exact h.refl c
  have hplaces := h.placesOf owners c
  split
  · rename_i heq
    exact of_eq hplaces heq
  · rename_i places found heq
    rw [heq] at hplaces
    have hsearch := h.trans hplaces (h.search found (lastPart name) places)
    split
    · rename_i path code parts _ searched heq
      have hcode : searched.interpreter.disk.code? path = some code := by
        simp only [Coupling.search, Prod.mk.injEq] at heq
        obtain ⟨hfile, rfl⟩ := heq
        exact code?_of_search hfile
      have hfile := h.file hload parts hcode (of_eq hsearch heq) hname
      split
      · rename_i heq
        exact h.trans (of_eq hfile heq) (h.attach _ _ _)
      · rename_i heq
        exact of_eq hfile heq
    · rename_i heq
      rw [heq] at hsearch
      split
      · exact hsearch
      · exact h.trans (h.trans hsearch (h.enter _ _ rfl)) (h.attach _ _ _)
    · rename_i heq
      exact of_eq hsearch heq
    · rename_i heq
      exact of_eq hsearch heq

theorem importFront (name : String) (c : Coupling) : R c (importFront importer name c).2 := by
  unfold Coupling.importFront
  split
  · exact h.importPart hload _ _ c
  · exact h.refl c

theorem importChain (names : List String) (c : Coupling) : R c (importChain importer names c).2 := by
  induction names generalizing c with
  | nil => exact h.refl c
  | cons name owners ih =>
    have howned : R c (if c.interpreter.isLoaded name || owners.head?.all c.interpreter.isLoaded
        then (.ok (), c) else Coupling.importChain importer owners c).2 := by
      split
      · exact h.refl c
      · exact ih c
    simp only [Coupling.importChain]
    split
    · exact howned
    · have hpart := h.trans howned (h.importPart hload name owners _)
      split
      · rename_i heq
        exact of_eq hpart heq
      · rename_i heq
        exact h.trans (of_eq hpart heq) (h.importFront hload name _)

omit hload

/-- By induction on how deep imports are nested. -/
theorem importWithin (n : Nat) (name : String) (c : Coupling) :
    R c (importWithin n name c).2 := by
  induction n generalizing name c with
  | zero => exact h.refl c
  | succ n ih => exact h.importChain (fun name c => ih name c) _ c

theorem load (name : String) (c : Coupling) : R c (c.load name).2 := h.importWithin _ name c

end ImportClosed

/-- A file whose program fails is forgotten again, which forgets nothing that had been loaded when
the import of its module began. -/
theorem userRun_loadFile {load : Importer} (hload : ∀ name (c : Coupling), c.UserRun (load name c).2)
    {name : String} (path : List String) (code : Code) (parts : Option String) (hc : c.UserRun c')
    (hname : ¬ c.interpreter.isLoaded name = true) :
    c.UserRun (loadFile load name path code parts c').2 := by
  have hrun := (hc.trans (.enter c' (.fresh name
    (some (c'.interpreter.disk.text path ++ Disk.ending)) (parts.map .beside) code))).trans
      (userRun_exec hload name code.top _)
  simp only [loadFile]
  split
  · rename_i heq
    exact (hrun.of_eq heq).trans (.modify _ name fun _ => ⟨rfl, rfl, rfl⟩)
  · rename_i heq
    exact (hrun.of_eq heq).tail (.unload _ name hname)

theorem importClosed_userRun : ImportClosed UserRun where
  refl := .refl
  trans := .trans
  barren c barren := .objects c _ _ _ _ barren
  modify c name _ same _ := .modify c name same
  enter c l _ := .enter c l
  file hload _ _ _ _ _ parts _ hc hname := userRun_loadFile hload _ _ parts hc hname

theorem userRun_load (name : String) (c : Coupling) : c.UserRun (c.load name).2 :=
  importClosed_userRun.load name c

theorem userRun_run {α : Type} (module : String) (p : Program α) (c : Coupling) :
    c.UserRun (c.run module p).2 :=
  userRun_exec (fun name c => userRun_load name c) module p c

/-! ## What is left alone -/

/-- The uses of the interpreter and of the meshes are what they were. -/
structure Keeps (c c' : Coupling) : Prop where
  lease : c'.lease = c.lease
  borrow : ∀ k, c'.borrow k = c.borrow k

namespace Keeps

theorem refl (c : Coupling) : c.Keeps c := ⟨rfl, fun _ => rfl⟩

theorem trans (h₁ : c.Keeps c') (h₂ : c'.Keeps c'') : c.Keeps c'' :=
  ⟨h₂.lease.trans h₁.lease, fun k => (h₂.borrow k).trans (h₁.borrow k)⟩

theorem setInterpreter (c : Coupling) (s : Interpreter) : c.Keeps (c.setInterpreter s) :=
  ⟨rfl, fun _ => rfl⟩

theorem emit (c : Coupling) (level : Level) (text : String) : c.Keeps (c.emit level text) :=
  ⟨rfl, fun _ => rfl⟩

theorem setMesh (c : Coupling) (k : MeshKey) (m : Mesh) : c.Keeps (c.setMesh k m) :=
  ⟨rfl, fun other => c.borrow_setMesh k other m⟩

end Keeps

/-- A session goes on: the uses are what they were, the same places are searched, and what was
loaded stays loaded. -/
structure InSession (c c' : Coupling) : Prop extends Keeps c c' where
  searchPath : c'.interpreter.searchPath = c.interpreter.searchPath
  loaded : ∀ name, c.interpreter.isLoaded name = true → c'.interpreter.isLoaded name = true

namespace InSession

theorem refl (c : Coupling) : c.InSession c := ⟨.refl c, rfl, fun _ h => h⟩

theorem trans (h₁ : c.InSession c') (h₂ : c'.InSession c'') : c.InSession c'' where
  toKeeps := h₁.toKeeps.trans h₂.toKeeps
  searchPath := h₂.searchPath.trans h₁.searchPath
  loaded name h := h₂.loaded name (h₁.loaded name h)

theorem setInterpreter (c : Coupling) {s : Interpreter}
    (hpath : s.searchPath = c.interpreter.searchPath := by rfl)
    (hmodules : s.modules = c.interpreter.modules := by rfl) : c.InSession (c.setInterpreter s) where
  toKeeps := .setInterpreter c s
  searchPath := hpath
  loaded name h := by rwa [Interpreter.isLoaded, Coupling.setInterpreter, hmodules]

theorem emit (c : Coupling) (level : Level) (text : String) : c.InSession (c.emit level text) :=
  ⟨.emit c level text, rfl, fun _ h => h⟩

end InSession

/-- What happens stays within what user code is meant to reach: exporters stand for what they stood
for, no argument of the running function is taken or added, and fields stay where they are. -/
structure Confined (c c' : Coupling) : Prop extends InSession c c' where
  exporters : c'.interpreter.exporters = c.interpreter.exporters
  frame : c'.interpreter.frame = c.interpreter.frame
  fieldIds : ∀ k, (c'.mesh k).fields.map (·.id) = (c.mesh k).fields.map (·.id)

namespace Confined

theorem refl (c : Coupling) : c.Confined c := ⟨.refl c, rfl, rfl, fun _ => rfl⟩

theorem trans (h₁ : c.Confined c') (h₂ : c'.Confined c'') : c.Confined c'' where
  toInSession := h₁.toInSession.trans h₂.toInSession
  exporters := h₂.exporters.trans h₁.exporters
  frame := h₂.frame.trans h₁.frame
  fieldIds k := (h₂.fieldIds k).trans (h₁.fieldIds k)

theorem of_eq {α : Type} {r : α × Coupling} {x : α} (h : c.Confined r.2) (heq : r = (x, c')) :
    c.Confined c' := by
  rwa [heq] at h

theorem setFieldValues (c : Coupling) (k : MeshKey) (position : Nat) (xs : List Float) :
    c.Confined (c.setMesh k ((c.mesh k).setFieldValues position xs)) where
  toInSession := ⟨.setMesh c k _, rfl, fun _ h => h⟩
  exporters := rfl
  frame := rfl
  fieldIds other := by
    by_cases hother : other = k
    · rw [hother]
      rcases c.mesh_setMesh_cases k ((c.mesh k).setFieldValues position xs) with h | h <;> rw [h]
      exact Mesh.map_setFieldValues _ _ _ fun _ _ => rfl
    · rw [mesh_setMesh_of_ne hother]

theorem step (h : c.Confined c')
    (hstep : UserStep (fun name => c.interpreter.isLoaded name = true) c' c'') : c.Confined c'' := by
  have hloaded : ∀ name, c.interpreter.isLoaded name = true → c''.interpreter.isLoaded name = true :=
    fun name hname => hstep.stay hname (h.loaded name hname)
  cases hstep with
  | note n =>
    exact ⟨⟨⟨h.lease, h.borrow⟩, h.searchPath, hloaded⟩, h.exporters, h.frame, h.fieldIds⟩
  | write exporter position x writable =>
    cases hmemory : (c'.exporter exporter).memory with
    | lent k field => exact h.trans (.setFieldValues c' k field _)
    | detached block =>
      rw [hmemory] at hloaded
      exact ⟨⟨⟨h.lease, h.borrow⟩, h.searchPath, hloaded⟩, h.exporters, h.frame, h.fieldIds⟩
    | unreachable => exact h
  | objects lists holds garbage stored barren =>
    exact ⟨⟨⟨h.lease, h.borrow⟩, h.searchPath, hloaded⟩, h.exporters, h.frame, h.fieldIds⟩
  | modify name f same =>
    exact ⟨⟨⟨h.lease, h.borrow⟩, h.searchPath, hloaded⟩, h.exporters, h.frame, h.fieldIds⟩
  | enter l =>
    exact ⟨⟨⟨h.lease, h.borrow⟩, h.searchPath, hloaded⟩, h.exporters, h.frame, h.fieldIds⟩
  | unload name forgettable =>
    exact ⟨⟨⟨h.lease, h.borrow⟩, h.searchPath, hloaded⟩, h.exporters, h.frame, h.fieldIds⟩

end Confined

theorem UserRun.confined (h : c.UserRun c') : c.Confined c' := by
  unfold UserRun at h
  induction h with
  | refl => exact .refl c
  | tail _ hstep ih => exact ih.step hstep

theorem confined_load (name : String) (c : Coupling) : c.Confined (c.load name).2 :=
  (userRun_load name c).confined

theorem confined_run {α : Type} (module : String) (p : Program α) (c : Coupling) :
    c.Confined (c.run module p).2 :=
  (userRun_run module p c).confined

end Coupling

end FieldMesh

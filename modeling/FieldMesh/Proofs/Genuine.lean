import FieldMesh.Proofs.Retention
import FieldMesh.Script.Described

/-! # User code that makes up no objects

Programs are arbitrary trees, so a program may ask about objects that nobody has given to it. A
genuine one does not: it uses what it was passed and what it was answered. Files whose programs are
genuine can be imported while no export of a mesh is open, and the mesh is out of their reach.
-/

namespace FieldMesh

namespace Query

def objects : Query → List Object
  | keep o => [o]
  | store o => [o]
  | abandon o => [o]
  | item o _ => [o]
  | assign o _ _ => [o]
  | append o _ => [o]
  | length o => [o]
  | rank o => [o]
  | shape o => [o]
  | contents o => [o]
  | describe o => [o]
  | base o => [o]
  | window o => [o]
  | tail o => [o]
  | exports o => [o]
  | request o _ _ => [o]
  | _ => []

def answered : Except Exn Object → List Object
  | .ok o => [o]
  | .error _ => []

theorem mem_answered_iff {r : Except Exn Object} {o : Object} : o ∈ answered r ↔ r = .ok o := by
  cases r with
  | ok o' => simp [answered, eq_comm]
  | error e => simp [answered]

def given : (q : Query) → Except Exn q.Answer → List Object
  | kept, r => answered r
  | collect _, r => answered r
  | base _, r => answered r
  | window _, r => answered r
  | tail _, r => answered r
  | _, _ => []

end Query

namespace Program

variable {α β : Type}

/-- Every object that a program asks about is among some objects or has been in an answer. -/
def Uses : Program α → List Object → Prop
  | done _, _ => True
  | ask q next, known =>
    (∀ o ∈ q.objects, o ∈ known) ∧ ∀ r, (next r).Uses (known ++ q.given r)

theorem Uses.mono {p : Program α} {known known' : List Object} (h : p.Uses known)
    (hsubset : known ⊆ known') : p.Uses known' := by
  induction p generalizing known known' with
  | done r => trivial
  | ask q next ih =>
    refine ⟨fun o ho => hsubset (h.1 o ho), fun r => ih r (h.2 r) ?_⟩
    exact List.append_subset.mpr ⟨List.subset_append_of_subset_left _ hsubset,
      List.subset_append_right _ _⟩

theorem Uses.bind {p : Program α} {f : α → Program β} {known : List Object} (h : p.Uses known)
    (hf : ∀ a, (f a).Uses known) : (p >>= f).Uses known := by
  change (p.bind f).Uses known
  induction p generalizing known with
  | done r =>
    cases r with
    | ok a => exact hf a
    | error e => trivial
  | ask q next ih =>
    exact ⟨h.1, fun r => ih r (h.2 r) fun a => (hf a).mono (List.subset_append_left _ _)⟩

theorem Uses.forEach {f : β → Program Unit} {known : List Object} (hf : ∀ b, (f b).Uses known)
    (bs : List β) : (Program.forEach f bs).Uses known := by
  induction bs with
  | nil => trivial
  | cons b bs ih => exact (hf b).bind fun _ => ih

theorem Uses.query {q : Query} (h : q.objects = []) (known : List Object) :
    (Program.query q).Uses known := by
  refine ⟨fun o ho => ?_, fun _ => trivial⟩
  rw [h] at ho
  exact nomatch ho

end Program

/-- No module file makes up objects when it is imported. -/
def Disk.Genuine (d : Disk) : Prop := ∀ file ∈ d.files, file.2.top.Uses []

theorem Disk.Genuine.uses {d : Disk} (h : d.Genuine) {path : List String} {code : Code}
    (hcode : d.code? path = some code) : code.top.Uses [] := by
  obtain ⟨file, hfile, rfl⟩ := Option.map_eq_some_iff.mp hcode
  exact h file (List.mem_of_find?_eq_some hfile)

theorem Described.uses_top (d : Described) : d.top.Uses [] := by
  unfold Described.top
  split
  · trivial
  · refine (Program.Uses.query rfl []).bind fun name => (Program.Uses.query rfl []).bind fun _ => ?_
    refine (Program.Uses.forEach (fun _ => Program.Uses.query rfl []) d.imports).bind fun _ => ?_
    split <;> trivial

namespace Coupling

variable {c c' c'' : Coupling} {k : MeshKey}

/-- An object is a window of the memory of a field of a mesh. -/
def Reaches (c : Coupling) (k : MeshKey) (o : Object) : Prop :=
  ∃ w e position, o = .window w ∧ c.interpreter.exporters[w.exporter]? = some e ∧
    e.memory = .lent k position

theorem unexported_iff : c.Unexported k ↔ ∀ o ∈ c.interpreter.live, ¬ c.Reaches k o := by
  constructor
  · rintro h o ho ⟨w, e, position, rfl, he, hmemory⟩
    have hpos := (Interpreter.exports_pos_iff _ _).mpr ⟨w, ho, rfl⟩
    exact absurd (h w.exporter e position he hmemory) (Nat.ne_of_gt hpos)
  · intro h id e position he hmemory
    by_contra hopen
    obtain ⟨w, hw, rfl⟩ := (Interpreter.exports_pos_iff _ _).mp (Nat.pos_of_ne_zero hopen)
    exact h _ hw ⟨w, e, position, rfl, he, hmemory⟩

/-- Nothing that is alive reaches a mesh, no exporter of it grants anything, and no module file
makes up objects. -/
structure Shut (k : MeshKey) (c : Coupling) : Prop where
  unexported : c.Unexported k
  revoked : ∀ (id : Nat) (e : Exporter) (position : Nat), c.interpreter.exporters[id]? = some e →
    e.memory = .lent k position → e.revoked = true
  genuine : c.interpreter.disk.Genuine

theorem AtRest.shut (h : c.AtRest) (unexported : c.Unexported k)
    (genuine : c.interpreter.disk.Genuine) : c.Shut k :=
  ⟨unexported, fun id e _ he _ => h.revoked id e he, genuine⟩

/-- A mesh that is out of reach stays so, and is left alone. -/
structure Spares (k : MeshKey) (c c' : Coupling) : Prop where
  isShut : c'.Shut k
  exporters : c'.interpreter.exporters = c.interpreter.exporters
  mesh : c'.mesh k = c.mesh k

namespace Spares

theorem refl (h : c.Shut k) : c.Spares k c := ⟨h, rfl, rfl⟩

theorem trans (h₁ : c.Spares k c') (h₂ : c'.Spares k c'') : c.Spares k c'' :=
  ⟨h₂.isShut, h₂.exporters.trans h₁.exporters, h₂.mesh.trans h₁.mesh⟩

theorem reaches_iff (h : c.Spares k c') {o : Object} : c'.Reaches k o ↔ c.Reaches k o := by
  simp only [Reaches, h.exporters]

theorem of_live (h : c.Shut k)
    (hlive : ∀ o ∈ c'.interpreter.live, o ∈ c.interpreter.live ∨ ¬ c.Reaches k o)
    (hexporters : c'.interpreter.exporters = c.interpreter.exporters)
    (hdisk : c'.interpreter.disk = c.interpreter.disk) (hmesh : c'.mesh k = c.mesh k) :
    c.Spares k c' where
  isShut := by
    have hout : c'.Unexported k := by
      rw [unexported_iff]
      intro o ho hreaches
      have hbefore : c.Reaches k o := by simpa only [Reaches, hexporters] using hreaches
      exact (hlive o ho).elim (fun h' => unexported_iff.mp h.unexported o h' hbefore) (· hbefore)
    exact ⟨hout, by rw [hexporters]; exact h.revoked, hdisk ▸ h.genuine⟩
  exporters := hexporters
  mesh := hmesh

theorem of_subset (h : c.Shut k) (hlive : c'.interpreter.live ⊆ c.interpreter.live)
    (hexporters : c'.interpreter.exporters = c.interpreter.exporters)
    (hdisk : c'.interpreter.disk = c.interpreter.disk) (hmesh : c'.mesh k = c.mesh k) :
    c.Spares k c' :=
  of_live h (fun _ ho => .inl (hlive ho)) hexporters hdisk hmesh

theorem objects (h : c.Shut k) (lists : List (List Value)) (holds : Nat) (barren : List String)
    (garbage stored : List Object)
    (hgarbage : ∀ o ∈ garbage, o ∈ c.interpreter.garbage ∨ ¬ c.Reaches k o)
    (hstored : ∀ o ∈ stored, o ∈ c.interpreter.stored ∨ ¬ c.Reaches k o) :
    c.Spares k (c.setInterpreter
      { c.interpreter with lists, holds, garbage, stored, barren }) := by
  refine of_live h (fun o ho => ?_) rfl rfl rfl
  simp only [Interpreter.live, setInterpreter, List.mem_append] at ho ⊢
  rcases ho with ((ho | ho) | ho) | ho
  · exact .inl (.inl (.inl (.inl ho)))
  · exact (hgarbage o ho).imp_left fun ho => .inl (.inl (.inr ho))
  · exact (hstored o ho).imp_left fun ho => .inl (.inr ho)
  · exact .inl (.inr ho)

theorem lists (h : c.Shut k) (lists : List (List Value)) :
    c.Spares k (c.setInterpreter { c.interpreter with lists }) :=
  .objects h lists _ _ _ _ (fun _ => .inl) fun _ => .inl

theorem collect (h : c.Shut k) : c.Spares k (c.setInterpreter c.interpreter.collect) :=
  .objects h _ _ _ [] _ (fun _ ho => nomatch ho) fun _ => .inl

theorem modify (h : c.Shut k) (name : String) {f : Loaded → Loaded}
    (hkept : ∀ l, ∀ o ∈ (f l).kept, o ∈ l.kept ∨ ¬ c.Reaches k o) :
    c.Spares k (c.setInterpreter (c.interpreter.modifyModule name f)) := by
  refine of_live h (fun o ho => ?_) rfl rfl rfl
  rcases List.mem_append.mp ho with ho | ho
  · exact .inl (List.mem_append_left _ ho)
  · obtain ⟨_, hl', ho⟩ := List.mem_flatMap.mp ho
    obtain ⟨l, hl, rfl⟩ := List.mem_map.mp hl'
    have hkeeps : o ∈ l.kept ∨ ¬ c.Reaches k o := by
      split at ho
      · exact hkept l o ho
      · exact .inl ho
    exact hkeeps.imp_left fun ho => List.mem_append_right _ (List.mem_flatMap.mpr ⟨l, hl, ho⟩)

end Spares

/-! ## Questions -/

theorem exists_setValue (c : Coupling) (m : Memory) (position : Nat) (x : Float) :
    ∃ blocks, (c.setValue m position x).interpreter = { c.interpreter with blocks } := by
  cases m with
  | lent k field => exact ⟨_, rfl⟩
  | detached block => exact ⟨_, rfl⟩
  | unreachable => exact ⟨_, rfl⟩

theorem mem_live_of_lastKept {module : String} {o : Object} (h : c.lastKept module = .ok o) :
    o ∈ c.interpreter.live := by
  unfold lastKept at h
  split at h
  · rename_i o' hlast
    cases h
    obtain ⟨l, hl, hkept⟩ := Option.bind_eq_some_iff.mp hlast
    refine List.mem_append_right _ (List.mem_flatMap.mpr ⟨l, ?_, List.mem_of_getLast? hkept⟩)
    exact List.mem_of_find?_eq_some hl
  · exact nomatch h

theorem not_reaches_list (c : Coupling) (k : MeshKey) (ref : Nat) : ¬ c.Reaches k (.list ref) := by
  rintro ⟨w, e, position, heq, -⟩
  exact nomatch heq

theorem not_reaches_exporter (c : Coupling) (k : MeshKey) (id : Nat) :
    ¬ c.Reaches k (.exporter id) := by
  rintro ⟨w, e, position, heq, -⟩
  exact nomatch heq

theorem Shut.windowOf (h : c.Shut k) {o o' : Object} (ho : ¬ c.Reaches k o)
    (hmade : c.windowOf o = .ok (o', c')) : c.Spares k c' ∧ ¬ c.Reaches k o' := by
  obtain ⟨w, rfl, rfl, rfl⟩ | ⟨id, w, rfl, rfl, hid, ⟨g, hgrant⟩, rfl⟩ := windowOf_cases hmade
  · exact ⟨.refl h, ho⟩
  · refine ⟨.objects h _ _ _ _ _ (fun _ => .inl) fun _ => .inl, ?_⟩
    rintro ⟨w', e, position, heq, he, hmemory⟩
    cases heq
    rw [hid] at he
    have hrevoked := h.revoked id e position he hmemory
    simp [grant, Coupling.exporter, he, hrevoked] at hgrant

theorem Shut.tailOf (h : c.Shut k) {o o' : Object} (ho : ¬ c.Reaches k o)
    (hmade : c.tailOf o = .ok (o', c')) : c.Spares k c' ∧ ¬ c.Reaches k o' := by
  obtain ⟨w, w', rfl, rfl, hexporter, rfl⟩ | ⟨ref, lists, rfl, rfl⟩ := tailOf_cases hmade
  · refine ⟨.refl h, ?_⟩
    rintro ⟨w'', e, position, heq, he, hmemory⟩
    cases heq
    exact ho ⟨w, e, position, rfl, hexporter ▸ he, hmemory⟩
  · exact ⟨.lists h lists, not_reaches_list c k ref⟩

theorem Shut.make (h : c.Shut k) {r : Except Exn (Object × Coupling)}
    (hr : ∀ o c', r = .ok (o, c') → c.Spares k c' ∧ ¬ c.Reaches k o) :
    c.Spares k (c.make r).2 ∧ ∀ o, (c.make r).1 = .ok o → ¬ c.Reaches k o := by
  cases r with
  | error e => exact ⟨.refl h, fun o ho => nomatch ho⟩
  | ok p =>
    obtain ⟨hspares, hmade⟩ := hr p.1 p.2 rfl
    refine ⟨hspares, fun o ho => ?_⟩
    cases ho
    exact hmade

/-- A write through a window that does not reach a mesh changes values elsewhere. -/
theorem Shut.writeItem (h : c.Shut k) {o : Object} {x : Index} {v : Value} (ho : ¬ c.Reaches k o)
    (hwrite : c.writeItem o x v = .ok c') : c.Spares k c' := by
  cases o with
  | window w =>
    obtain ⟨writable, position, number, rfl⟩ := writeItem_window hwrite
    have he := exists_of_writable writable
    have hcut : c.Cut k w.exporter :=
      ⟨_, he, fun place hmemory => ho ⟨w, _, place, rfl, he, hmemory⟩⟩
    obtain ⟨blocks, hblocks⟩ :=
      c.exists_setValue (c.exporter w.exporter).memory position number
    refine .of_subset h ?_ ?_ ?_ (hcut.mesh_setValue position number) <;> rw [hblocks]
    exact List.Subset.refl _
  | list ref =>
    obtain ⟨place, -, hwrite⟩ := exists_of_bind hwrite
    cases hwrite
    exact .lists h _
  | exporter id => exact absurd hwrite (writeItem_exporter_ne_ok c id x v c')

/-- A question about objects that do not reach a mesh that is out of reach spares the mesh, and is
answered by such objects. -/
theorem Shut.answer (h : c.Shut k) {load : Importer}
    (hload : ∀ name (c : Coupling), c.Shut k → c.Spares k (load name c).2) (module : String)
    {q : Query} (hq : ∀ o ∈ q.objects, ¬ c.Reaches k o) :
    c.Spares k (c.answer load module q).2 ∧
      ∀ o ∈ q.given (c.answer load module q).1, ¬ c.Reaches k o := by
  have hrefl : c.Spares k c := .refl h
  have hnothing : ∀ o : Object, o ∈ ([] : List Object) → ¬ c.Reaches k o := fun o ho => nomatch ho
  cases q with
  | load name => exact ⟨hload name c h, hnothing⟩
  | trace record => exact ⟨.of_subset h (List.Subset.refl _) rfl rfl rfl, hnothing⟩
  | count counter => exact ⟨.modify h module fun _ _ => .inl, hnothing⟩
  | forget => exact ⟨.modify h module fun _ o ho => (nomatch ho), hnothing⟩
  | keep o =>
    refine ⟨.modify h module fun l o' ho' => ?_, hnothing⟩
    exact (List.mem_append.mp ho').imp_right fun ho' => hq o' ho'
  | store o =>
    refine ⟨.objects h _ _ _ _ _ (fun _ => .inl) fun o' ho' => ?_, hnothing⟩
    exact (List.mem_append.mp ho').imp_right fun ho' => hq o' ho'
  | abandon o =>
    refine ⟨.objects h _ _ _ _ _ (fun o' ho' => ?_) fun _ => .inl, hnothing⟩
    exact (List.mem_append.mp ho').imp_right fun ho' => hq o' ho'
  | assign o x v =>
    refine ⟨?_, hnothing⟩
    simp only [Coupling.answer, change]
    split
    · rename_i hwrite
      exact h.writeItem (hq o (List.mem_singleton_self o)) hwrite
    · exact hrefl
  | append o v =>
    refine ⟨?_, hnothing⟩
    cases o with
    | list ref => exact .lists h _
    | window w => exact hrefl
    | exporter id => exact hrefl
  | collect items =>
    refine ⟨.lists h _, fun o ho => ?_⟩
    cases List.mem_singleton.mp ho
    exact not_reaches_list c k _
  | window o =>
    obtain ⟨hspares, hmade⟩ := h.make fun _ _ => h.windowOf (hq o (List.mem_singleton_self o))
    exact ⟨hspares, fun o' ho' => hmade o' (Query.mem_answered_iff.mp ho')⟩
  | tail o =>
    obtain ⟨hspares, hmade⟩ := h.make fun _ _ => h.tailOf (hq o (List.mem_singleton_self o))
    exact ⟨hspares, fun o' ho' => hmade o' (Query.mem_answered_iff.mp ho')⟩
  | base o =>
    refine ⟨hrefl, fun o' ho' => ?_⟩
    have hbase : baseOf o = .ok o' := Query.mem_answered_iff.mp ho'
    cases o with
    | window w =>
      cases hbase
      exact not_reaches_exporter c k _
    | list ref => exact nomatch hbase
    | exporter id => exact nomatch hbase
  | kept =>
    refine ⟨hrefl, fun o ho => ?_⟩
    exact unexported_iff.mp h.unexported o
      (mem_live_of_lastKept (Query.mem_answered_iff.mp ho))
  | self => exact ⟨hrefl, hnothing⟩
  | item o x => exact ⟨hrefl, hnothing⟩
  | length o => exact ⟨hrefl, hnothing⟩
  | rank o => exact ⟨hrefl, hnothing⟩
  | shape o => exact ⟨hrefl, hnothing⟩
  | contents o => exact ⟨hrefl, hnothing⟩
  | describe o => exact ⟨hrefl, hnothing⟩
  | exports o => exact ⟨hrefl, hnothing⟩
  | request o flags into => exact ⟨hrefl, hnothing⟩

/-- By induction on the program; what it knows at each step does not reach the mesh. -/
theorem Shut.exec {load : Importer}
    (hload : ∀ name (c : Coupling), c.Shut k → c.Spares k (load name c).2) (module : String)
    {α : Type} {p : Program α} {known : List Object} (huses : p.Uses known) (h : c.Shut k)
    (hknown : ∀ o ∈ known, ¬ c.Reaches k o) : c.Spares k (exec load module p c).2 := by
  induction p generalizing c known with
  | done r => exact .refl h
  | ask q next ih =>
    obtain ⟨hspares, hgiven⟩ := h.answer hload module fun o ho => hknown o (huses.1 o ho)
    refine hspares.trans (ih _ (huses.2 _) hspares.isShut fun o ho => ?_)
    rw [hspares.reaches_iff]
    rcases List.mem_append.mp ho with ho | ho
    · exact hknown o ho
    · exact hgiven o ho

/-! ## Imports -/

theorem Spares.enter (h : c.Shut k) {l : Loaded} (hkept : l.kept = []) :
    c.Spares k (c.setInterpreter (c.interpreter.enter l)) := by
  refine .of_subset h (fun o ho => ?_) rfl rfl rfl
  simpa [Interpreter.live, setInterpreter, Interpreter.enter, hkept] using ho

theorem Spares.unload (h : c.Shut k) (names : List String) :
    c.Spares k (c.setInterpreter (c.interpreter.unload names)) := by
  refine .of_subset h (fun o ho => ?_) rfl rfl rfl
  rcases List.mem_append.mp ho with ho | ho
  · exact List.mem_append_left _ ho
  · obtain ⟨l, hl, ho⟩ := List.mem_flatMap.mp ho
    exact List.mem_append_right _ (List.mem_flatMap.mpr ⟨l, (List.mem_filter.mp hl).1, ho⟩)

/-- The program of a genuine file knows no object when it begins to run. -/
theorem Shut.loadFile {load : Importer}
    (hload : ∀ name (c : Coupling), c.Shut k → c.Spares k (load name c).2) (h : c.Shut k)
    (name : String) {path : List String} {code : Code} (parts : Option String)
    (hcode : c.interpreter.disk.code? path = some code) :
    c.Spares k (loadFile load name path code parts c).2 := by
  have hentered := Spares.enter h (l := .fresh name
    (some (c.interpreter.disk.text path ++ Disk.ending)) (parts.map .beside) code) rfl
  have hrun := hentered.trans (hentered.isShut.exec hload name (h.genuine.uses hcode)
    fun o ho => nomatch ho)
  simp only [Coupling.loadFile]
  split <;> rename_i heq <;> rw [heq] at hrun
  · exact hrun.trans (.modify hrun.isShut name fun _ _ => .inl)
  · exact hrun.trans (.unload hrun.isShut [name])

theorem importClosed_spares (k : MeshKey) :
    ImportClosed fun c c' => c.Shut k → c.Spares k c' where
  refl _ := .refl
  trans h₁ h₂ h := (h₁ h).trans (h₂ (h₁ h).isShut)
  barren _ barren h := .objects h _ _ barren _ _ (fun _ => .inl) fun _ => .inl
  modify _ name _ _ kept h := .modify h name fun l _ ho => .inl (kept l ▸ ho)
  enter _ _ kept h := .enter h kept
  file hload _ _ name _ _ parts hcode hc _ h :=
    (hc h).trans ((hc h).isShut.loadFile hload name parts hcode)

theorem Shut.load (h : c.Shut k) (name : String) : c.Spares k (c.load name).2 :=
  (importClosed_spares k).load name c h

/-! ## Joining, loading and leaving -/

theorem Spares.of_interpreter (h : c.Shut k) (hinterpreter : c'.interpreter = c.interpreter)
    (hcells : c'.cells = c.cells) : c.Spares k c' := by
  refine .of_subset h ?_ (by rw [hinterpreter]) (by rw [hinterpreter]) (mesh_of_cells hcells k)
  rw [hinterpreter]
  exact List.Subset.refl _

theorem Shut.loadFrom (h : c.Shut k) (directory module : String) :
    c.Spares k (c.loadFrom directory module) := by
  obtain ⟨searchPath, hinterpreter, hcells⟩ := c.exists_addPlace directory
  have hplaced : c.Spares k (c.addPlace directory) := by
    refine .of_subset h ?_ ?_ ?_ (mesh_of_cells hcells k) <;> rw [hinterpreter]
    exact List.Subset.refl _
  have hload := hplaced.trans (hplaced.isShut.load module)
  exact hload.trans (.of_interpreter hload.isShut rfl rfl)

theorem Shut.release (h : c.Shut k) : c.Spares k c.release := by
  simp only [Coupling.release]
  split
  · exact .of_interpreter h rfl rfl
  · have hunload := Spares.unload h c.lease.tracked
    have hcollect := hunload.trans (.collect hunload.isShut)
    exact hcollect.trans (.of_subset hcollect.isShut (List.Subset.refl _) rfl rfl rfl)

end Coupling

namespace ScriptedAction

variable {a : ScriptedAction} {c : Coupling} {k : MeshKey}

theorem spares_takeHooks (h : c.Shut k) (module directory : String) :
    c.Spares k (takeHooks module directory c).2 := by
  unfold takeHooks
  split
  · exact .refl h
  split
  · exact .refl h
  have hload := h.load "numpy"
  simp only
  split <;> rename_i heq <;> rw [heq] at hload
  · exact hload.trans (.of_interpreter hload.isShut rfl rfl)
  · exact hload.trans (.of_interpreter hload.isShut rfl rfl)

theorem spares_importHooks (h : c.Shut k) (module directory : String) :
    c.Spares k (importHooks module directory c).2 := by
  have hjoined : c.Spares k c.acquire := .of_interpreter h c.interpreter_acquire c.cells_acquire
  have hload := hjoined.trans (hjoined.isShut.loadFrom directory module)
  rw [importHooks_eq]
  simp only
  split
  · exact hload.trans hload.isShut.release
  · have htake := hload.trans (spares_takeHooks hload.isShut module directory)
    split <;> rename_i heq <;> rw [heq] at htake
    · exact htake.trans htake.isShut.release
    · exact htake

theorem spares_ensureLoaded (h : c.Shut k) : c.Spares k (a.ensureLoaded c).2 := by
  cases hstate : a.state with
  | ready hooks =>
    simp only [ensureLoaded, hstate]
    exact .refl h
  | failed e =>
    simp only [ensureLoaded, hstate]
    exact .refl h
  | unloaded =>
    have himport := spares_importHooks h a.module (a.directory c.interpreter.disk)
    simp only [ensureLoaded, hstate]
    split <;> rename_i heq <;> rw [heq] at himport
    · exact himport
    · exact himport.trans (.of_interpreter himport.isShut rfl rfl)

end ScriptedAction

end FieldMesh

import FieldMesh.Proofs.Arrays
import FieldMesh.Proofs.Genuine
import FieldMesh.Proofs.Unbuilt

/-! # What a scripted action can write

A call lends its source for reading and its target for writing, and what the function for vertices
returns goes into the target. So of all that a mesh consists of, a call changes the values of the
target at most, and not their number, whatever the functions of the module do and wherever the call
ends.
-/

namespace FieldMesh

/-- What is selected as the target is the field at the position that an id says. -/
def Selection.Targets (s : Selection) (target : Option FieldId) : Prop :=
  ∀ p, s.target = some p → target = some ⟨p.position⟩

namespace Mesh

variable {m : Mesh} {target : Option FieldId}

theorem targets_of_select {source : Option FieldId} {sel : Selection}
    (selected : m.select source target = .ok sel) (numbered : m.Numbered) : sel.Targets target := by
  intro p hp
  have hplaced : p ∈ sel.placed := by
    rw [Selection.placed, hp]
    exact List.mem_append_right _ (List.mem_singleton_self p)
  have hid := (placed_of_select selected numbered hplaced).1
  obtain ⟨-, -, -, rfl⟩ := select_eq_ok_iff.mp selected
  obtain ⟨d, rfl, hd⟩ := Option.bind_eq_some_iff.mp hp
  rw [← hid, (lastOf_zipIdx_eq_some_iff.mp hd).2.1]

end Mesh

namespace Coupling

variable {c c' : Coupling} {k : MeshKey} {target : Option FieldId}

/-! ## Loans -/

theorem Guarded.retire (h : c.Guarded k target) :
    WritesOnly k target c (c.setInterpreter c.interpreter.retire) := by
  refine .of_exporters h rfl fun id e he => ?_
  simp only [setInterpreter, Interpreter.retire, List.getElem?_mapIdx] at he
  obtain ⟨e', he', rfl⟩ := Option.map_eq_some_iff.mp he
  split
  · exact ⟨e', he', rfl, .inr (by rintro _ ⟨⟩)⟩
  · exact ⟨e', he', rfl, .inl rfl⟩

theorem Guarded.givesBack {loans : List Loan} (h : c.Guarded k target)
    (hgives : GivesBack loans c c') : WritesOnly k target c c' := by
  refine .of_exporters h hgives.cells fun id e he => ?_
  rw [hgives.exporters, Loan.getElem?_revokeAll] at he
  obtain ⟨e', he', rfl⟩ := Option.map_eq_some_iff.mp he
  exact ⟨e', he', rfl, .inl rfl⟩

theorem Guarded.newExporter (h : c.Guarded k target) (length components : Nat) {position : Nat}
    {writable : Bool} (allowed : writable = true → target = some ⟨position⟩) :
    WritesOnly k target c (c.setInterpreter
      (c.interpreter.newExporter (.lent k position) length components writable).2) where
  guarded id e position' he hwritable hmemory := by
    simp only [setInterpreter, Interpreter.newExporter] at he
    rcases Nat.lt_or_ge id c.interpreter.exporters.length with hold | hnew
    · rw [List.getElem?_append_left hold] at he
      exact h id e position' he hwritable hmemory
    · rw [List.getElem?_append_right hnew, List.getElem?_singleton] at he
      split at he
      · cases he
        cases hmemory
        exact allowed hwritable
      · cases he
  rewrites := .refl _ _

theorem Guarded.revoke (h : c.Guarded k target) (exporter : Nat) :
    WritesOnly k target c (c.setInterpreter (c.interpreter.revoke exporter)) := by
  refine .of_exporters h rfl fun id e he => ?_
  simp only [setInterpreter, Interpreter.revoke, List.getElem?_modify] at he
  obtain ⟨e', he', rfl⟩ := Option.map_eq_some_iff.mp he
  split <;> exact ⟨e', he', rfl, .inl rfl⟩

theorem Guarded.lend (h : c.Guarded k target) (arrays : Option String) {p : Placed}
    {writable : Bool} (allowed : writable = true → target = some ⟨p.position⟩) :
    WritesOnly k target c (c.lend arrays k p writable).2 := by
  unfold Coupling.lend
  simp only
  split
  · exact .of_eq h rfl rfl
  · have hnew := h.newExporter p.field.bytes p.field.components allowed
    have hwrap := hnew.trans (hnew.guarded.userRun
      (userRun_wrap _ arrays c.interpreter.exporters.length))
    split <;> rename_i heq
    · have hdone := hwrap.of_result heq
      exact hdone.trans (.of_eq hdone.guarded rfl rfl)
    · have hfailed := hwrap.of_result heq
      exact hfailed.trans (hfailed.guarded.revoke _)

end Coupling

namespace ScriptedAction

variable {a : ScriptedAction} {hooks : Hooks} {fields : Selection} {step : Step} {c c' : Coupling}
  {k : MeshKey} {target : Option FieldId}

/-! ## A call -/

theorem writesOnly_lendOne (h : c.Guarded a.mesh target) (hooks : Hooks) (writable : Bool)
    (p : Option Placed)
    (allowed : writable = true → ∀ f, p = some f → target = some ⟨f.position⟩) :
    Coupling.WritesOnly a.mesh target c (a.lendOne hooks writable p c).2 := by
  cases p with
  | none => exact .refl h
  | some f =>
    have hlend := h.lend hooks.arrays fun hwritable => allowed hwritable f rfl
    simp only [lendOne]
    split <;> rename_i heq <;> exact hlend.of_result heq

theorem writesOnly_lendAll (h : c.Guarded a.mesh target) (hooks : Hooks)
    (allowed : fields.Targets target) :
    Coupling.WritesOnly a.mesh target c (a.lendAll hooks fields c).2 := by
  have hsource := writesOnly_lendOne h hooks false fields.source fun hwritable => nomatch hwritable
  rw [lendAll_eq]
  split <;> rename_i heq
  · exact hsource.of_result heq
  · have hlent := hsource.of_result heq
    have htarget := hlent.trans
      (writesOnly_lendOne hlent.guarded hooks true fields.target fun _ => allowed)
    split <;> rename_i heq
    · exact htarget.of_result heq
    · have hfailed := htarget.of_result heq
      exact hfailed.trans (hfailed.guarded.givesBack (Coupling.givesBack_dropLoans _ _))

theorem rewritesOnly_storeRow {p : Option Placed} {slot : Nat} {id : VertexId} {v : Value}
    (allowed : ∀ f, p = some f → target = some ⟨f.position⟩)
    (hstore : a.storeRow p slot id v c = .ok c') :
    (c.mesh a.mesh).RewritesOnly target (c'.mesh a.mesh) := by
  unfold storeRow at hstore
  split at hstore
  · exact nomatch hstore
  rename_i position f htarget
  obtain ⟨placed, rfl, hf⟩ := Option.bind_eq_some_iff.mp htarget
  obtain ⟨g, hg, heq⟩ := Option.map_eq_some_iff.mp hf
  cases heq
  split at hstore
  · exact nomatch hstore
  · exact nomatch hstore
  split at hstore
  · exact nomatch hstore
  rename_i new _
  rcases f.setRow_cases slot new with hover | hnone | ⟨hrow, hsome⟩
  · rw [hover] at hstore
    exact nomatch hstore
  · rw [hnone] at hstore
    cases hstore
    exact .refl _ _
  · rw [hsome] at hstore
    cases hstore
    rw [allowed placed rfl]
    refine Coupling.rewritesOnly_setMesh (Mesh.rewritesOnly_setFieldValues fun f' hf' => ?_)
    cases hg.symm.trans hf'
    exact Field.length_writeRow new hrow

theorem writesOnly_runVertex (h : c.Guarded a.mesh target)
    (callback : VertexId → List Float → Value → Value → Program Value)
    (allowed : fields.Targets target) (vertex : Vertex) (slot : Nat) :
    Coupling.WritesOnly a.mesh target c (a.runVertex callback fields vertex slot c).2 := by
  refine ⟨h.of_eq (confined_runVertex a callback fields vertex slot c).exporters, ?_⟩
  unfold runVertex
  split
  · exact .refl _ _
  · exact .refl _ _
  · rename_i source target' _ _
    have hrun := h.userRun (Coupling.userRun_run a.module
      (callback vertex.id vertex.coords.toList (entryOf source) (entryOf target')) c)
    split <;> rename_i heq
    · exact (hrun.of_result heq).rewrites
    · have hran := (hrun.of_result heq).rewrites
      split
      · exact hran
      · split
        · exact hran
        · rename_i hstore
          exact hran.trans (rewritesOnly_storeRow allowed hstore)

/-- By induction on the vertices. -/
theorem writesOnly_runVertices (h : c.Guarded a.mesh target)
    (callback : VertexId → List Float → Value → Value → Program Value)
    (allowed : fields.Targets target)
    (vertices : List (Vertex × Nat)) :
    Coupling.WritesOnly a.mesh target c (a.runVertices callback fields vertices c).2 := by
  induction vertices generalizing c with
  | nil => exact .refl h
  | cons first rest ih =>
    obtain ⟨vertex, slot⟩ := first
    have hone := writesOnly_runVertex h callback allowed vertex slot
    rw [runVertices]
    split <;> rename_i heq <;> have hran := hone.of_result heq
    · exact hran.trans (ih hran.guarded)
    · exact hran

theorem writesOnly_runCallbacks (h : c.Guarded a.mesh target) (hooks : Hooks)
    (allowed : fields.Targets target) :
    Coupling.WritesOnly a.mesh target c (a.runCallbacks hooks fields c).2 := by
  have heach : Coupling.WritesOnly a.mesh target c (a.runEachVertex hooks fields c).2 := by
    unfold runEachVertex
    split
    · exact .refl h
    · exact writesOnly_runVertices h _ allowed _
  unfold runCallbacks
  split <;> rename_i heq <;> have hran := heach.of_result heq
  · exact hran
  · refine hran.trans ?_
    unfold runPost
    split
    · exact .refl hran.guarded
    · rename_i post _
      have hpost := hran.guarded.userRun (Coupling.userRun_run a.module post _)
      split <;> rename_i heq <;> exact hpost.of_result heq

/-- The mandatory function, when only the target was lent for writing once the memory that nobody
refers to is out of reach. -/
theorem writesOnly_runPerform (h : (c.setInterpreter c.interpreter.retire).Guarded a.mesh target)
    (hooks : Hooks) (step : Step)
    (allowed : fields.Targets target) :
    Coupling.WritesOnly a.mesh target c (a.runPerform hooks fields step c).2.2 := by
  have hlend := writesOnly_lendAll h hooks allowed
  rcases hbuilt : a.lendAll hooks fields (c.setInterpreter c.interpreter.retire) with
    ⟨e | lent, lending⟩ <;> have hlent := hlend.of_result hbuilt
  · rw [runPerform_of_unlent hbuilt]
    exact ⟨hlent.guarded, hlent.rewrites⟩
  · rw [runPerform_of_lent hbuilt]
    have hran := hlent.trans (hlent.guarded.userRun (Coupling.userRun_run a.module (hooks.perform
      [step.time, step.length, step.computed, step.window] (lent.map (·.loan.object))) lending))
    have hended := hran.trans (hran.guarded.givesBack (Coupling.givesBack_endLoans lent _))
    have hretired := hended.trans hended.guarded.retire
    exact ⟨hretired.guarded, hretired.rewrites⟩

theorem targets_of_select (selected : a.select c = .ok fields)
    (numbered : (c.mesh a.mesh).Numbered) : fields.Targets a.target :=
  Mesh.targets_of_select (mapError_eq_ok_iff.mp selected) numbered

theorem rewritesOnly_runHooks
    (h : (c.setInterpreter c.interpreter.retire).Guarded a.mesh a.target)
    (numbered : (c.mesh a.mesh).Numbered) (hooks : Hooks) (step : Step) :
    (c.mesh a.mesh).RewritesOnly a.target ((a.runHooks hooks step c).2.mesh a.mesh) := by
  unfold runHooks
  split
  · exact .refl _ _
  rename_i fields selected
  have hperform := writesOnly_runPerform h hooks step (targets_of_select selected numbered)
  rcases hran : a.runPerform hooks fields step c with ⟨outcome, kept, ran⟩
  rw [hran] at hperform
  split <;> rename_i heq
  · cases heq
    exact hperform.rewrites
  · cases heq
    split
    · exact hperform.rewrites
    · rename_i again
      -- The fields are numbered still, so the target is where it was.
      have hcallbacks := writesOnly_runCallbacks hperform.guarded hooks
        (targets_of_select again (hperform.rewrites.numbered numbered))
      exact hperform.rewrites.trans hcallbacks.rewrites
  · cases heq
    rw [Coupling.mesh_of_cells (Coupling.cells_foldl_detach _ _ _)]
    exact hperform.rewrites

theorem mesh_release (a : ScriptedAction) (c : Coupling) (k : MeshKey) :
    (a.release c).mesh k = c.mesh k := by
  unfold release
  split
  · exact Coupling.mesh_of_cells c.cells_release k
  · rfl

theorem mesh_performReady_of_busy (hbusy : c.borrow a.mesh ≠ .free) (hooks : Hooks) (step : Step)
    (k : MeshKey) : (a.performReady hooks step c).state.mesh k = c.mesh k := by
  unfold performReady
  split
  · rfl
  · rename_i hcheck
    exact absurd (Coupling.checkFree_eq_ok_iff.mp hcheck) hbusy

theorem mesh_performReady (hfree : c.borrow a.mesh = .free) (hooks : Hooks) (step : Step)
    (k : MeshKey) : (a.performReady hooks step c).state.mesh k =
      (a.runHooks hooks step (c.setBorrow a.mesh .exclusive)).2.mesh k := by
  rw [performReady, Coupling.checkFree_eq_ok_iff.mpr hfree]
  simp only
  split <;> rename_i heq <;> rw [heq]
  · exact Coupling.mesh_setBorrow _ _ _ _
  · exact (mesh_release _ _ _).trans (Coupling.mesh_setBorrow _ _ _ _)
  · exact Coupling.mesh_setBorrow _ _ _ _

theorem mesh_perform_of_lent {lent : List LentField} {loaded lending : Coupling}
    (h : a.Lending c hooks fields loaded (.ok lent) lending) (vertex : hooks.vertex = none)
    (post : hooks.post = none) (step : Step) (k : MeshKey) :
    (a.perform step c).state.mesh k = (a.afterPerform hooks step lent lending).mesh k := by
  rcases hended : (a.afterPerform hooks step lent lending).endLoans lent with ⟨errors, ended⟩
  obtain ⟨outcome, hperform⟩ := h.runPerform_eq step hended
  have hgives := Coupling.givesBack_endLoans lent (a.afterPerform hooks step lent lending)
  rw [hended] at hgives
  rw [h.perform_eq]
  refine (mesh_performReady (a := { a with state := .ready hooks }) h.free hooks step k).trans
    (Coupling.mesh_of_cells ?_ k)
  refine Eq.trans ?_ hgives.cells
  simp only [runHooks, h.select_ready, hperform]
  generalize (errors.filter (·.2.isRetained)).map (·.1.id) = kept
  generalize settle a.module outcome errors = settled
  split <;> rename_i heq <;> cases heq
  · rfl
  · simp only [runCallbacks, runEachVertex, runPost, vertex, post]
    split <;> rfl
  · exact Coupling.cells_foldl_detach _ _ _

theorem rewritesOnly_performReady
    (h : (c.setInterpreter c.interpreter.retire).Guarded a.mesh a.target)
    (numbered : (c.mesh a.mesh).Numbered) (hooks : Hooks) (step : Step) :
    (c.mesh a.mesh).RewritesOnly a.target ((a.performReady hooks step c).state.mesh a.mesh) := by
  by_cases hfree : c.borrow a.mesh = .free
  · have hmesh : (c.setBorrow a.mesh .exclusive).mesh a.mesh = c.mesh a.mesh :=
      c.mesh_setBorrow _ _ _
    rw [mesh_performReady hfree, ← hmesh]
    exact rewritesOnly_runHooks (c := c.setBorrow a.mesh .exclusive) (h.of_eq rfl)
      (hmesh ▸ numbered) hooks step
  · exact .of_eq (mesh_performReady_of_busy hfree hooks step a.mesh)

/-- Where arrays only wrap, functions that cannot be given their fields leave all meshes alone. -/
theorem cells_runHooks (hwraps : c.OnlyWraps hooks.arrays)
    (hunlent : ∀ fields lent lending, a.select c = .ok fields →
      a.lendAll hooks fields (c.setInterpreter c.interpreter.retire) ≠ (.ok lent, lending))
    (step : Step) : (a.runHooks hooks step c).2.cells = c.cells := by
  unfold runHooks
  split
  · rfl
  rename_i fields selected
  have hlend := cells_lendAll (c := c.setInterpreter c.interpreter.retire) hwraps a fields
  rcases hbuilt : a.lendAll hooks fields (c.setInterpreter c.interpreter.retire) with
    ⟨e | lent, lending⟩
  · rw [runPerform_of_unlent hbuilt]
    rwa [hbuilt] at hlend
  · exact absurd hbuilt (hunlent fields lent lending selected)

theorem unexported_ensureLoaded (hrest : c.AtRest) (unexported : c.Unexported k)
    (genuine : a.state = .unloaded → c.interpreter.disk.Genuine) :
    (a.ensureLoaded c).2.mesh k = c.mesh k ∧ (a.ensureLoaded c).2.Unexported k := by
  cases hstate : a.state with
  | unloaded =>
    have hspares := spares_ensureLoaded (a := a) (hrest.shut unexported (genuine hstate))
    exact ⟨hspares.mesh, hspares.isShut.unexported⟩
  | ready hooks =>
    simp only [ensureLoaded, hstate]
    exact ⟨trivial, unexported⟩
  | failed e =>
    simp only [ensureLoaded, hstate]
    exact ⟨trivial, unexported⟩

/-- Whatever the functions do, and wherever the call ends, it rewrites the target at most. -/
theorem rewritesOnly_perform (hrest : c.AtRest) (numbered : (c.mesh a.mesh).Numbered)
    (unexported : c.Unexported a.mesh)
    (genuine : a.state = .unloaded → c.interpreter.disk.Genuine) (step : Step) :
    (c.mesh a.mesh).RewritesOnly a.target ((a.perform step c).state.mesh a.mesh) := by
  obtain ⟨hmesh, hout⟩ := unexported_ensureLoaded hrest unexported genuine
  rcases hensured : a.ensureLoaded c with ⟨state, loaded⟩
  rw [hensured] at hmesh hout
  simp only [perform, hensured]
  cases state with
  | unloaded => exact .of_eq hmesh
  | failed e => exact .of_eq hmesh
  | ready hooks =>
    obtain ⟨_, hpasses⟩ := passes_ensureLoaded hensured
    have hguarded := (hout.sealed (hpasses.atRest hrest)).guarded a.target
    rw [← hmesh] at numbered ⊢
    exact rewritesOnly_performReady (a := { a with state := .ready hooks }) hguarded numbered hooks
      step

theorem mesh_perform_of_unlent (hrest : c.AtRest) (unexported : c.Unexported a.mesh)
    (genuine : a.state = .unloaded → c.interpreter.disk.Genuine)
    (wraps : ∀ hooks loaded, a.ensureLoaded c = (.ready hooks, loaded) →
      loaded.OnlyWraps hooks.arrays)
    (unlent : ∀ hooks fields loaded lent lending,
      ¬ a.Lending c hooks fields loaded (.ok lent) lending) (step : Step) :
    (a.perform step c).state.mesh a.mesh = c.mesh a.mesh := by
  obtain ⟨hmesh, -⟩ := unexported_ensureLoaded hrest unexported genuine
  rcases hensured : a.ensureLoaded c with ⟨state, loaded⟩
  rw [hensured] at hmesh
  rw [← hmesh]
  cases state with
  | unloaded => simp only [perform, hensured]
  | failed e => simp only [perform, hensured]
  | ready hooks =>
    simp only [perform, hensured]
    by_cases hfree : loaded.borrow a.mesh = .free
    · have hcells := cells_runHooks (a := { a with state := .ready hooks })
        (c := loaded.setBorrow a.mesh .exclusive) (wraps hooks loaded hensured)
        (fun fields lent lending selected hbuilt => by
          refine unlent hooks fields loaded lent lending ⟨hensured, hfree, ?_, hbuilt⟩
          rwa [select, Coupling.mesh_setBorrow] at selected) step
      exact (mesh_performReady (a := { a with state := .ready hooks }) hfree hooks step _).trans
        ((Coupling.mesh_of_cells hcells _).trans (loaded.mesh_setBorrow _ _ _))
    · exact mesh_performReady_of_busy (a := { a with state := .ready hooks }) hfree hooks step _

end ScriptedAction

namespace Usage

/-- Let the ids of the fields of a mesh be their positions, and let no export of it be open. Then a
call of an action on it changes no more of it than values of the target of the action, and not their
number, whatever the functions of the module do and wherever the call ends. Without a target the
mesh stays as it is, and so it does if the call does not come to the mandatory function, provided
that the module which makes arrays only wraps. A module that has yet to be loaded is one of a disk
whose files make up no objects when they are imported. -/
theorem writes_target_only (disk : Disk) (searchPath : List String) (modules : List Loaded)
    (events : List UsageEvent) (step : Step) {i : Nat} {a : ScriptedAction}
    (performs : ((start disk searchPath modules).run events).actions[i]? = some a)
    (numbered : (((start disk searchPath modules).run events).coupling.mesh a.mesh).Numbered)
    (unexported : ((start disk searchPath modules).run events).coupling.Unexported a.mesh)
    (genuine : a.state = .unloaded →
      ((start disk searchPath modules).run events).coupling.interpreter.disk.Genuine) :
    let u := (start disk searchPath modules).run events
    let before := u.coupling.mesh a.mesh
    let after := (u.apply (.perform i step)).coupling.mesh a.mesh
    before.RewritesOnly a.target after ∧ (a.target = none → after = before) ∧
      ((∀ hooks loaded, a.ensureLoaded u.coupling = (.ready hooks, loaded) →
          loaded.OnlyWraps hooks.arrays) →
        (∀ hooks fields loaded lent lending,
          ¬ a.Lending u.coupling hooks fields loaded (.ok lent) lending) →
        after = before) := by
  intro u before after
  obtain ⟨hpasses, -⟩ := passes_run (accounts_start disk searchPath modules) events
  have hrest : u.coupling.AtRest := hpasses.atRest ⟨rfl, fun _ _ he => nomatch he⟩
  have hcalled : after = (a.perform step u.coupling).state.mesh a.mesh := by
    simp only [after, apply, performs, u]
  have hrewrites := ScriptedAction.rewritesOnly_perform hrest numbered unexported genuine step
  rw [hcalled]
  refine ⟨hrewrites, fun hnone => ?_, fun wraps unlent => ?_⟩
  · rw [hnone] at hrewrites
    exact hrewrites.eq_of_none
  · exact ScriptedAction.mesh_perform_of_unlent hrest unexported genuine wraps unlent step

/-- The functions of a module whose mandatory function writes what it was lent, the target first. -/
def writing : Hooks where
  perform _ objects :=
    match objects with
    | [source, target] => .ask (.assign target (.one 0) (.float 3)) fun _ =>
      .query (.assign source (.one 0) (.float 3))
    | _ => .done (.ok ())
  vertex := none
  post := none
  arrays := some "numpy"

def writers : List Loaded :=
  [.fresh "act" none none ⟨.done (.ok ()), some writing.perform, none, none, none⟩,
    .fresh "numpy" none none ⟨.done (.ok ()), none, none, none, some fun o => .query (.window o)⟩]

def shelf : Disk := ⟨"", [(["spare"], Described.code default)]⟩

/-- The target is written, and the source is not. -/
theorem writes_target_only_writer :
    let u := (start shelf [] writers).run keeperEvents
    let after := (u.apply (.perform 0 ⟨0, 0, 0, 0⟩)).coupling.mesh ⟨0⟩
    u.actions[0]? = some keeper ∧ (u.coupling.mesh ⟨0⟩).Numbered ∧ u.coupling.Unexported ⟨0⟩ ∧
      u.coupling.interpreter.disk.Genuine ∧ dot.RewritesOnly (some ⟨1⟩) after ∧
      after.fields.map (·.values) = [[1], [3]] := by
  intro u after
  have hnumbered : (u.coupling.mesh ⟨0⟩).Numbered := by
    intro i f hf
    rcases i with _ | _ | i
    · exact Option.some.inj hf ▸ rfl
    · exact Option.some.inj hf ▸ rfl
    · cases hf
  have hunexported : u.coupling.Unexported ⟨0⟩ := fun _ _ _ he => nomatch he
  have hgenuine : u.coupling.interpreter.disk.Genuine := by
    intro file hfile
    cases List.mem_singleton.mp hfile
    exact Described.uses_top default
  have hrewrites := writes_target_only shelf [] writers keeperEvents ⟨0, 0, 0, 0⟩ (i := 0) rfl
    hnumbered hunexported fun _ => hgenuine
  refine ⟨rfl, hnumbered, hunexported, hgenuine, hrewrites.1, ?_⟩
  obtain ⟨loaded, searchPath, hensured, hcells, hinterpreter⟩ :=
    ScriptedAction.ensureLoaded_of_isLoaded (a := keeper) (c := u.coupling) rfl
      (Splitting.splitOn_ofList ['a', 'c', 't'] '.') rfl rfl rfl
  obtain ⟨fields, lent, lending, hlending, hobjects, hexporters, hmesh⟩ : ∃ fields lent lending,
      keeper.Lending u.coupling writing fields loaded (.ok lent) lending ∧
        lent.map (·.loan.object) = [.window ⟨0, 0, .ofBytes 8 1⟩, .window ⟨1, 1, .ofBytes 8 1⟩] ∧
        lending.interpreter.exporters = [⟨.lent ⟨0⟩ 0, 8, .ofBytes 8 1, false, false⟩,
          ⟨.lent ⟨0⟩ 1, 8, .ofBytes 8 1, true, false⟩] ∧
        lending.cells = [⟨dot, .exclusive⟩] := by
    obtain ⟨cells, log, notes, interpreter, lease⟩ := loaded
    cases hcells
    cases hinterpreter
    exact ⟨_, _, _, ⟨hensured, rfl, rfl, rfl⟩, rfl, rfl, rfl⟩
  have hafter : after = (keeper.afterPerform writing ⟨0, 0, 0, 0⟩ lent lending).mesh ⟨0⟩ :=
    ScriptedAction.mesh_perform_of_lent hlending rfl rfl ⟨0, 0, 0, 0⟩ ⟨0⟩
  rw [hafter, ScriptedAction.afterPerform, hobjects]
  obtain ⟨cells, log, notes, interpreter, lease⟩ := lending
  obtain ⟨⟩ := interpreter
  cases hmesh
  cases hexporters
  rfl

end Usage

end FieldMesh

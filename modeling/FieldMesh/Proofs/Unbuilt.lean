import FieldMesh.Proofs.Retention

/-! # Views that cannot be built

A call fails early if an array of a field cannot be made. User code has run by then, and it may keep
windows of the memory of this field and of those before it. Such windows are not looked for: the
exporters grant nothing more, but they go on to stand for their fields, and the action stays ready.
-/

namespace FieldMesh

namespace Coupling

variable {c c' : Coupling} {k : MeshKey} {placed : List Placed}

/-- Where no exporter stood for a field of a mesh, the mesh is exported exactly if an export has
been left open that was opened for one of its fields. -/
theorem Opens.unexported_iff (h : Opens k placed c c') (hsealed : c.Sealed k) :
    c'.Unexported k ↔ ∀ id, c.interpreter.exporters.length ≤ id →
      id < c'.interpreter.exporters.length → c'.interpreter.exports id = 0 := by
  constructor
  · intro hnone id hge hlt
    have he := List.getElem?_eq_getElem hlt
    obtain ⟨p, -, hmemory⟩ := h.opened id _ hge he
    exact hnone id _ p.position he hmemory
  · intro hclosed id e position he hmemory
    have hlt := (List.getElem?_eq_some_iff.mp he).1
    rcases Nat.lt_or_ge id c.interpreter.exporters.length with hold | hnew
    · -- An exporter from before the loans stands for no field of the mesh.
      obtain ⟨e', he', hcut⟩ := h.cut (hsealed id hold)
      cases he.symm.trans he'
      exact absurd hmemory (hcut position)
    · exact hclosed id hnew hlt

end Coupling

namespace ScriptedAction

variable {a : ScriptedAction} {hooks : Hooks} {fields : Selection} {c loaded lending : Coupling}
  {e : ActionError}

theorem perform_of_unlent (h : a.Lending c hooks fields loaded (.error e) lending) (step : Step) :
    a.perform step c =
      ⟨.error (.refused e), { a with state := .ready hooks }, lending.setBorrow a.mesh .free⟩ := by
  have hperform : { a with state := .ready hooks }.runPerform hooks fields step
      (loaded.setBorrow a.mesh .exclusive) = (.error e, [], lending) :=
    runPerform_of_unlent h.lendAll_ready
  rw [h.perform_eq, performReady, Coupling.checkFree_eq_ok_iff.mpr h.free]
  simp only [runHooks, h.select_ready, hperform]

/-- When a view cannot be built, the call answers which field it was for, and the action stays
ready. The exporters from before are as they were, and those that were opened for the call grant
nothing more but stand for their fields still, whether windows of them are alive or not. If the mesh
was not exported, it is exported after the call exactly if a window of one of them is alive. -/
theorem unbuilt_uncaught (h : a.Lending c hooks fields loaded (.error e) lending) (step : Step) :
    let before := loaded.interpreter.retire.exporters
    let performed := a.perform step c
    let after := performed.state.interpreter
    (∃ p ∈ fields.placed, ∃ reason, e = .marshal a.module p.field.name reason) ∧
      performed.answer = .error (.refused e) ∧
      performed.action = { a with state := .ready hooks } ∧
      (∀ (id : Nat) exporter, before[id]? = some exporter → after.exporters[id]? = some exporter) ∧
      (∀ (id : Nat) exporter, before.length ≤ id → after.exporters[id]? = some exporter →
        exporter.revoked = true ∧ ∃ p ∈ fields.placed, exporter.memory = .lent a.mesh p.position) ∧
      (loaded.AtRest → loaded.Unexported a.mesh →
        (performed.state.Unexported a.mesh ↔ ∀ id, before.length ≤ id →
          id < after.exporters.length → ¬ after.Refers id)) := by
  intro before performed after
  obtain ⟨_, _, hok, -⟩ | ⟨_, _, herror, hunlent⟩ := a.lendAll_cases hooks fields
    ((loaded.setBorrow a.mesh .exclusive).setInterpreter loaded.interpreter.retire)
  · exact nomatch h.built.symm.trans hok
  cases h.built.symm.trans herror
  have hperform : performed = _ := perform_of_unlent h step
  have hafter : after = lending.interpreter := congrArg (·.state.interpreter) hperform
  rw [hafter]
  refine ⟨hunlent.marshal, congrArg (·.answer) hperform, congrArg (·.action) hperform,
    hunlent.kept, ?_, ?_⟩
  · intro id exporter hge he
    exact ⟨hunlent.revoked id exporter hge he, hunlent.opened id exporter hge he⟩
  · intro hrest hunexported
    have hsealed : ((loaded.setBorrow a.mesh .exclusive).setInterpreter
      loaded.interpreter.retire).Sealed a.mesh := hunexported.sealed hrest
    have hsame : performed.state.Unexported a.mesh ↔ lending.Unexported a.mesh := by
      rw [hperform]
      rfl
    rw [hsame, hunlent.toOpens.unexported_iff hsealed]
    simp only [← Interpreter.exports_pos_iff, Nat.not_lt, Nat.le_zero]
    rfl

end ScriptedAction

namespace Usage

/-! ## Fields that stay exported -/

/-- A module that stores every window it makes, and is at a loss the second time. -/
def hoarder : Code where
  top := .done (.ok ())
  perform := none
  vertex := none
  post := none
  asarray := some fun o => .ask (.window o) fun made =>
    match made with
    | .error e => .raise e
    | .ok w => .ask (.store w) fun _ => .ask (.count "calls") fun n =>
      match n with
      | .ok 1 => .done (.ok w)
      | _ => .raise (.of "TypeError" "no arrays today")

def hoarders : List Loaded :=
  [.fresh "act" none none ⟨.done (.ok ()), some keeping.perform, none, none, none⟩,
    .fresh "numpy" none none hoarder]

/-- The source is lent, and the target cannot be. Windows of both are stored, and they stay when the
source is given back. -/
theorem lending_hoarders : ∃ loaded fields e lending source target,
    keeper.Lending ((start default [] hoarders).run keeperEvents).coupling keeping fields loaded
      (.error e) lending ∧
    .window source ∈ lending.interpreter.stored ∧ .window target ∈ lending.interpreter.stored ∧
    (lending.exporter source.exporter).memory = .lent ⟨0⟩ 0 ∧
    (lending.exporter target.exporter).memory = .lent ⟨0⟩ 1 := by
  obtain ⟨loaded, searchPath, hensured, hcells, hinterpreter⟩ :=
    ScriptedAction.ensureLoaded_of_isLoaded (a := keeper)
      (c := ((start default [] hoarders).run keeperEvents).coupling) rfl
      (Splitting.splitOn_ofList ['a', 'c', 't'] '.') rfl rfl rfl
  obtain ⟨cells, log, notes, interpreter, lease⟩ := loaded
  cases hcells
  cases hinterpreter
  generalize hloaded : Coupling.mk _ log notes _ lease = loaded at hensured
  obtain ⟨fields, sources, lending, e, failed, hselected, hsource, htarget, source, target, hstored,
      hmemory, hmemory'⟩ : ∃ fields sources lending e failed,
      keeper.select loaded = .ok fields ∧
      keeper.lendOne keeping false fields.source ((loaded.setBorrow ⟨0⟩ .exclusive).setInterpreter
        loaded.interpreter.retire) = (.ok sources, lending) ∧
      keeper.lendOne keeping true fields.target lending = (.error e, failed) ∧
      ∃ source target, failed.interpreter.stored = [.window source, .window target] ∧
        (failed.interpreter.exporters[source.exporter]?).map (·.memory) = some (.lent ⟨0⟩ 0) ∧
        (failed.interpreter.exporters[target.exporter]?).map (·.memory) = some (.lent ⟨0⟩ 1) := by
    subst hloaded
    exact ⟨_, _, _, _, _, rfl, rfl, rfl, _, _, rfl, rfl, rfl⟩
  have hgives := Coupling.givesBack_dropLoans sources failed
  have hbuilt : keeper.lendAll keeping fields ((loaded.setBorrow ⟨0⟩ .exclusive).setInterpreter
      loaded.interpreter.retire) =
        (.error e, sources.foldl (fun c f => c.dropLoan f.loan) failed) := by
    simp only [ScriptedAction.lendAll_eq, hsource, htarget]
  generalize sources.foldl (fun c f => c.dropLoan f.loan) failed = dropped at hgives hbuilt
  have hsame (id : Nat) (memory : Memory)
      (h : (failed.interpreter.exporters[id]?).map (·.memory) = some memory) :
      (dropped.exporter id).memory = memory := by
    obtain ⟨exporter, he, rfl⟩ := Option.map_eq_some_iff.mp h
    rw [Coupling.exporter, hgives.exporters, Loan.getElem?_revokeAll, he]
    rfl
  refine ⟨loaded, fields, e, dropped, source, target, ⟨hensured, ?_, hselected, hbuilt⟩, ?_, ?_,
    hsame _ _ hmemory, hsame _ _ hmemory'⟩
  · subst hloaded
    rfl
  · simp [hgives.stored, hstored]
  · simp [hgives.stored, hstored]

theorem unbuilt_uncaught_hoarders : ∃ loaded fields e lending,
    keeper.Lending ((start default [] hoarders).run keeperEvents).coupling keeping fields loaded
      (.error e) lending ∧
    (keeper.perform ⟨0, 0, 0, 0⟩ ((start default [] hoarders).run keeperEvents).coupling).action =
      { keeper with state := .ready keeping } := by
  obtain ⟨loaded, fields, e, lending, -, -, hlending, -⟩ := lending_hoarders
  exact ⟨loaded, fields, e, lending, hlending,
    (ScriptedAction.unbuilt_uncaught hlending ⟨0, 0, 0, 0⟩).2.2.1⟩

/-- The call fails because the target cannot be lent. Windows of both fields are alive after it, and
they are windows of the fields themselves. The action stays ready. -/
theorem hoarded_fields_stay_exported :
    let c := ((start default [] hoarders).run keeperEvents).coupling
    let performed := keeper.perform ⟨0, 0, 0, 0⟩ c
    (∃ e, performed.answer = .error (.refused e)) ∧ performed.action.isLoaded = true ∧
      ∃ source target, .window source ∈ performed.state.interpreter.live ∧
        .window target ∈ performed.state.interpreter.live ∧
        (performed.state.exporter source.exporter).memory = .lent ⟨0⟩ 0 ∧
        (performed.state.exporter target.exporter).memory = .lent ⟨0⟩ 1 := by
  obtain ⟨loaded, fields, e, lending, source, target, hlending, hsource, htarget, hmemory,
    hmemory'⟩ := lending_hoarders
  intro c performed
  have hperform : performed = _ := ScriptedAction.perform_of_unlent hlending ⟨0, 0, 0, 0⟩
  have hsame : performed.state.interpreter = lending.interpreter :=
    congrArg (·.state.interpreter) hperform
  have hlive (o : Object) (ho : o ∈ lending.interpreter.stored) :
      o ∈ performed.state.interpreter.live := by
    rw [hsame]
    exact List.mem_append_left _ (List.mem_append_right _ ho)
  refine ⟨⟨e, congrArg (·.answer) hperform⟩, congrArg (·.action.isLoaded) hperform, source, target,
    hlive _ hsource, hlive _ htarget, ?_, ?_⟩
  · rwa [Coupling.exporter, hsame]
  · rwa [Coupling.exporter, hsame]

end Usage

end FieldMesh

import FieldMesh.Proofs.Lending

/-! # What a call leaves alone

A call of a loaded action takes place within a session: who uses the interpreter and what has been
loaded stays as it is. Between calls no function runs and no exporter grants anything, and a call
leaves it so, whatever the functions do. An exporter that no longer stands for a field never does
again.
-/

namespace FieldMesh

namespace Coupling

variable {c c' c'' : Coupling}

/-! ## At rest -/

/-- No function runs, and no exporter grants anything. -/
structure AtRest (c : Coupling) : Prop where
  frame : c.interpreter.frame = []
  revoked : ∀ (id : Nat) (e : Exporter), c.interpreter.exporters[id]? = some e → e.revoked = true

/-- There is an exporter of this number, and it stands for no field of a mesh. -/
def Cut (c : Coupling) (k : MeshKey) (id : Nat) : Prop :=
  ∃ e, c.interpreter.exporters[id]? = some e ∧ ∀ position, e.memory ≠ .lent k position

/-- Work within a session that begins and ends at rest. What has been cut off stays so. -/
structure Works (c c' : Coupling) : Prop extends InSession c c' where
  atRest : c.AtRest → c'.AtRest
  cut : ∀ k id, c.Cut k id → c'.Cut k id

namespace AtRest

theorem of_eq (h : c.AtRest) (hframe : c'.interpreter.frame = c.interpreter.frame)
    (hexporters : c'.interpreter.exporters = c.interpreter.exporters) : c'.AtRest :=
  ⟨hframe.trans h.frame, fun id e he => h.revoked id e (hexporters ▸ he)⟩

theorem retire (h : c.AtRest) : (c.setInterpreter c.interpreter.retire).AtRest where
  frame := h.frame
  revoked id e he := by
    simp only [setInterpreter, Interpreter.retire, List.getElem?_mapIdx] at he
    obtain ⟨e', he', rfl⟩ := Option.map_eq_some_iff.mp he
    have hrevoked := h.revoked id e' he'
    split <;> exact hrevoked

theorem detach (h : c.AtRest) (k : MeshKey) (d : FieldId) : (c.detach k d).AtRest := by
  unfold Coupling.detach
  split
  · exact h
  · refine ⟨h.frame, fun id e he => ?_⟩
    simp only [setInterpreter, List.getElem?_map] at he
    obtain ⟨e', he', rfl⟩ := Option.map_eq_some_iff.mp he
    have hrevoked := h.revoked id e' he'
    split <;> exact hrevoked

end AtRest

namespace Cut

variable {k : MeshKey} {id : Nat}

theorem of_eq (h : c.Cut k id) (hexporters : c'.interpreter.exporters = c.interpreter.exporters) :
    c'.Cut k id := by
  rwa [Cut, hexporters]

theorem retire (h : c.Cut k id) : (c.setInterpreter c.interpreter.retire).Cut k id := by
  obtain ⟨e, he, hmemory⟩ := h
  refine ⟨if e.revoked && c.interpreter.exports id == 0 then { e with memory := .unreachable }
    else e, ?_, ?_⟩
  · simp only [setInterpreter, Interpreter.retire, List.getElem?_mapIdx, he, Option.map_some]
  · split
    · rintro _ ⟨⟩
    · exact hmemory

theorem detach (h : c.Cut k id) (other : MeshKey) (d : FieldId) : (c.detach other d).Cut k id := by
  obtain ⟨e, he, hmemory⟩ := h
  unfold Coupling.detach
  split
  · exact ⟨e, he, hmemory⟩
  · rename_i f _
    refine ⟨if e.memory = .lent other d.raw then
        { e with memory := .detached c.interpreter.blocks.length } else e, ?_, ?_⟩
    · simp only [setInterpreter, List.getElem?_map, he, Option.map_some]
    · split
      · rintro _ ⟨⟩
      · exact hmemory

theorem givesBack {loans : List Loan} (h : c.Cut k id) (hgives : GivesBack loans c c') :
    c'.Cut k id := by
  obtain ⟨e, he, hmemory⟩ := h
  refine ⟨{ e with revoked := e.revoked || loans.any (·.isOf id) }, ?_, hmemory⟩
  rw [hgives.exporters, Loan.getElem?_revokeAll, he, Option.map_some]

end Cut

namespace Works

theorem refl (c : Coupling) : c.Works c := ⟨.refl c, id, fun _ _ h => h⟩

theorem trans (h₁ : c.Works c') (h₂ : c'.Works c'') : c.Works c'' where
  toInSession := h₁.toInSession.trans h₂.toInSession
  atRest h := h₂.atRest (h₁.atRest h)
  cut k id h := h₂.cut k id (h₁.cut k id h)

theorem of_eq {α : Type} {r : α × Coupling} {x : α} (h : c.Works r.2) (heq : r = (x, c')) :
    c.Works c' := by
  rwa [heq] at h

theorem emit (c : Coupling) (level : Level) (text : String) : c.Works (c.emit level text) :=
  ⟨.emit c level text, fun h => h.of_eq rfl rfl, fun _ _ h => h.of_eq rfl⟩

theorem retire (c : Coupling) : c.Works (c.setInterpreter c.interpreter.retire) :=
  ⟨.setInterpreter c, .retire, fun _ _ => .retire⟩

theorem detach (c : Coupling) (k : MeshKey) (d : FieldId) : c.Works (c.detach k d) where
  toInSession := by
    unfold Coupling.detach
    split
    · exact .refl c
    · exact .setInterpreter c
  atRest h := h.detach k d
  cut _ _ h := h.detach k d

theorem foldl {α : Type} {f : Coupling → α → Coupling}
    (h : ∀ (c : Coupling) (a : α), c.Works (f c a)) (as : List α) (c : Coupling) :
    c.Works (as.foldl f c) := by
  induction as generalizing c with
  | nil => exact refl c
  | cons a as ih => exact (h c a).trans (ih _)

end Works

theorem Confined.works (h : c.Confined c') : c.Works c' :=
  ⟨h.toInSession, fun hrest => hrest.of_eq h.frame h.exporters,
    fun _ _ hcut => hcut.of_eq h.exporters⟩

theorem Opens.cut {k other : MeshKey} {placed : List Placed} (h : Opens k placed c c') {id : Nat}
    (hcut : c.Cut other id) : c'.Cut other id := by
  obtain ⟨e, he, hmemory⟩ := hcut
  exact ⟨e, h.kept id e he, hmemory⟩

/-- Fields are lent, user code runs, and the loans are given back. -/
theorem Lends.works {k : MeshKey} {placed : List Placed} {lent : List LentField}
    {ran : Coupling} (h : Lends k placed lent c c') (hran : c'.Confined ran)
    (hgives : GivesBack (lent.map (·.loan)) ran c'') : c.Works c'' where
  toInSession := (h.toInSession.trans hran.toInSession).trans hgives.inSession
  atRest hrest := by
    refine ⟨hgives.frame_eq_nil (by rw [hran.frame, h.frame, hrest.frame]; simp), ?_⟩
    intro id e he
    rw [hgives.exporters, hran.exporters] at he
    rcases Nat.lt_or_ge id c.interpreter.exporters.length with hlt | hge
    · rw [Loan.getElem?_revokeAll, h.kept id _ (List.getElem?_eq_getElem hlt)] at he
      cases he
      simp only [hrest.revoked id _ (List.getElem?_eq_getElem hlt), Bool.true_or]
    · have hlt : id < c'.interpreter.exporters.length := by
        rw [Loan.getElem?_revokeAll] at he
        obtain ⟨e', he', -⟩ := Option.map_eq_some_iff.mp he
        exact (List.getElem?_eq_some_iff.mp he').1
      exact h.revoked_of_revokeAll hge hlt he
  cut _ _ hcut := ((h.toOpens.cut hcut).of_eq hran.exporters).givesBack hgives

/-! ## Leaving, and borrowing a mesh -/

theorem users_release (c : Coupling) : c.release.lease.users = c.lease.users - 1 := by
  simp only [release]
  split <;> rfl

theorem exporters_release (c : Coupling) :
    c.release.interpreter.exporters = c.interpreter.exporters := by
  simp only [release]
  split <;> rfl

theorem frame_release (c : Coupling) : c.release.interpreter.frame = c.interpreter.frame := by
  simp only [release]
  split <;> rfl

theorem blocks_release (c : Coupling) :
    c.release.interpreter.blocks = c.interpreter.blocks := by
  simp only [release]
  split <;> rfl

theorem cells_release (c : Coupling) : c.release.cells = c.cells := by
  simp only [release]
  split <;> rfl

theorem borrow_setBorrow_of_ne {k other : MeshKey} (h : other ≠ k) (b : Borrow) :
    (c.setBorrow k b).borrow other = c.borrow other := by
  have hi : k.index ≠ other.index := fun e => h (by cases k; cases other; exact congrArg _ e.symm)
  unfold borrow cell? setBorrow
  simp [hi]

theorem borrow_setBorrow_free {k : MeshKey} : (c.setBorrow k .free).borrow k = .free := by
  unfold borrow cell? setBorrow
  rw [List.getElem?_modify_eq]
  cases c.cells[k.index]? <;> rfl

theorem Works.taken {k : MeshKey} (hfree : c.borrow k = .free)
    (h : (c.setBorrow k .exclusive).Works c') : c.Works (c'.setBorrow k .free) where
  lease := h.lease
  borrow other := by
    by_cases hk : other = k
    · rw [hk, borrow_setBorrow_free, hfree]
    · rw [borrow_setBorrow_of_ne hk, h.borrow, borrow_setBorrow_of_ne hk]
  searchPath := h.searchPath
  loaded := h.loaded
  atRest hrest := (h.atRest (hrest.of_eq rfl rfl)).of_eq rfl rfl
  cut other id hcut := (h.cut other id (hcut.of_eq rfl)).of_eq rfl

end Coupling

namespace ScriptedAction

variable {a : ScriptedAction} {hooks : Hooks} {step : Step} {c c' : Coupling}

/-! ## The functions -/

theorem confined_storeRow {target : Option Placed} {slot : Nat} {id : VertexId} {v : Value}
    (h : a.storeRow target slot id v c = .ok c') : c.Confined c' := by
  unfold storeRow at h
  split at h
  · exact nomatch h
  · split at h
    · exact nomatch h
    · exact nomatch h
    · split at h
      · exact nomatch h
      · split at h
        · exact nomatch h
        · cases h
          exact .refl c
        · cases h
          exact .setFieldValues c _ _ _

theorem confined_runVertex (a : ScriptedAction)
    (callback : VertexId → List Float → Value → Value → Program Value) (fields : Selection)
    (vertex : Vertex) (slot : Nat) (c : Coupling) :
    c.Confined (a.runVertex callback fields vertex slot c).2 := by
  unfold runVertex
  split
  · exact .refl c
  · exact .refl c
  · rename_i source target _ _
    have hrun := Coupling.confined_run a.module
      (callback vertex.id vertex.coords.toList (entryOf source) (entryOf target)) c
    split
    · rename_i heq
      exact hrun.of_eq heq
    · rename_i v ran heq
      rw [heq] at hrun
      split
      · exact hrun
      · split
        · exact hrun
        · rename_i stored hstored
          exact hrun.trans (confined_storeRow hstored)

theorem confined_runVertices (a : ScriptedAction)
    (callback : VertexId → List Float → Value → Value → Program Value) (fields : Selection)
    (vertices : List (Vertex × Nat)) (c : Coupling) :
    c.Confined (a.runVertices callback fields vertices c).2 := by
  induction vertices generalizing c with
  | nil => exact .refl c
  | cons p rest ih =>
    obtain ⟨vertex, slot⟩ := p
    have hone := confined_runVertex a callback fields vertex slot c
    rw [runVertices]
    split
    · rename_i heq
      exact (hone.of_eq heq).trans (ih _)
    · rename_i heq
      exact hone.of_eq heq

theorem confined_runPost (a : ScriptedAction) (hooks : Hooks) (c : Coupling) :
    c.Confined (a.runPost hooks c).2 := by
  unfold runPost
  split
  · exact .refl c
  · rename_i post _
    have hrun := Coupling.confined_run a.module post c
    split <;> rename_i heq <;> exact hrun.of_eq heq

theorem confined_runCallbacks (a : ScriptedAction) (hooks : Hooks) (fields : Selection)
    (c : Coupling) : c.Confined (a.runCallbacks hooks fields c).2 := by
  have heach : c.Confined (a.runEachVertex hooks fields c).2 := by
    unfold runEachVertex
    split
    · exact .refl c
    · exact confined_runVertices a _ _ _ c
  unfold runCallbacks
  split
  · rename_i heq
    exact heach.of_eq heq
  · rename_i heq
    exact (heach.of_eq heq).trans (confined_runPost a hooks _)

/-! ## A call -/

theorem Unlent.works {fields : Selection} {e : ActionError} (h : a.Unlent fields e c c') :
    c.Works c' where
  toInSession := h.toInSession
  atRest hrest := by
    refine ⟨h.frame hrest.frame, fun id e he => ?_⟩
    rcases Nat.lt_or_ge id c.interpreter.exporters.length with hlt | hge
    · have hold := List.getElem?_eq_getElem hlt
      rw [h.kept id _ hold] at he
      cases he
      exact hrest.revoked id _ hold
    · exact h.revoked id e hge he
  cut _ _ hcut := h.toOpens.cut hcut

theorem runPerform_of_lent {fields : Selection} {lending : Coupling} {lent : List LentField}
    (h : a.lendAll hooks fields (c.setInterpreter c.interpreter.retire) = (.ok lent, lending)) :
    a.runPerform hooks fields step c =
      let ran := lending.run a.module (hooks.perform
        [step.time, step.length, step.computed, step.window] (lent.map (·.loan.object)))
      let ended := ran.2.endLoans lent
      (settle a.module (ran.1.mapError (hookError a.module Code.performHook)) ended.1,
        (ended.1.filter (·.2.isRetained)).map (·.1.id),
        ended.2.setInterpreter ended.2.interpreter.retire) := by
  simp only [runPerform, h]

theorem runPerform_of_unlent {fields : Selection} {failed : Coupling} {e : ActionError}
    (h : a.lendAll hooks fields (c.setInterpreter c.interpreter.retire) = (.error e, failed)) :
    a.runPerform hooks fields step c = (.error e, [], failed) := by
  simp only [runPerform, h]

theorem works_runPerform (a : ScriptedAction) (hooks : Hooks) (step : Step) (fields : Selection)
    (c : Coupling) : c.Works (a.runPerform hooks fields step c).2.2 := by
  have hretire := Coupling.Works.retire c
  obtain ⟨lent, lending, heq, hlends⟩ | ⟨e, failed, heq, hunlent⟩ :=
    a.lendAll_cases hooks fields (c.setInterpreter c.interpreter.retire)
  · rw [runPerform_of_lent heq]
    exact (hretire.trans (hlends.works (Coupling.confined_run _ _ _)
      (Coupling.givesBack_endLoans lent _))).trans (.retire _)
  · rw [runPerform_of_unlent heq]
    exact hretire.trans hunlent.works

theorem works_runHooks (a : ScriptedAction) (hooks : Hooks) (step : Step) (c : Coupling) :
    c.Works (a.runHooks hooks step c).2 := by
  unfold runHooks
  split
  · exact .refl c
  · rename_i fields _
    have hperform := works_runPerform a hooks step fields c
    split
    · rename_i heq
      exact hperform.of_eq (congrArg Prod.snd heq)
    · rename_i heq
      rw [heq] at hperform
      split
      · exact hperform
      · exact hperform.trans (confined_runCallbacks a hooks _ _).works
    · rename_i heq
      exact (hperform.of_eq (congrArg Prod.snd heq)).trans
        (.foldl (fun c d => .detach c a.mesh d) _ _)

theorem works_takeHooks (module directory : String) (c : Coupling) :
    c.Works (takeHooks module directory c).2 := by
  unfold takeHooks
  split
  · exact .refl c
  split
  · exact .refl c
  have hload := (Coupling.confined_load "numpy" c).works
  simp only
  split <;> rename_i heq
  · exact (hload.of_eq heq).trans (.emit _ _ _)
  · exact ((hload.of_eq heq).trans (.emit _ _ _)).trans (.emit _ _ _)

theorem perform_ready (h : a.state = .ready hooks) :
    a.perform step c = a.performReady hooks step c := by
  obtain ⟨timing, path, module, mesh, source, target, state⟩ := a
  cases h
  rfl

theorem perform_failed {e : ActionError} (h : a.state = .failed e) :
    a.perform step c = ⟨.error (.refused e), a, c⟩ := by
  obtain ⟨timing, path, module, mesh, source, target, state⟩ := a
  cases h
  rfl

/-- A call gets as far as lending the fields of the action: its functions are there, the mesh is
free, and the fields cover it. -/
structure Lending (a : ScriptedAction) (c : Coupling) (hooks : Hooks) (fields : Selection)
    (loaded : Coupling) (built : Except ActionError (List LentField)) (lending : Coupling) :
    Prop where
  ensured : a.ensureLoaded c = (.ready hooks, loaded)
  free : loaded.borrow a.mesh = .free
  selected : a.select loaded = .ok fields
  built : a.lendAll hooks fields ((loaded.setBorrow a.mesh .exclusive).setInterpreter
    loaded.interpreter.retire) = (built, lending)

namespace Lending

variable {fields : Selection} {loaded lending : Coupling}
  {built : Except ActionError (List LentField)}

theorem perform_eq (h : a.Lending c hooks fields loaded built lending) (step : Step) :
    a.perform step c = { a with state := .ready hooks }.performReady hooks step loaded := by
  simp only [perform, h.ensured]

theorem select_ready (h : a.Lending c hooks fields loaded built lending) :
    { a with state := .ready hooks }.select (loaded.setBorrow a.mesh .exclusive) = .ok fields := by
  rw [select, Coupling.mesh_setBorrow]
  exact h.selected

theorem lendAll_ready (h : a.Lending c hooks fields loaded built lending) :
    { a with state := .ready hooks }.lendAll hooks fields
      ((loaded.setBorrow a.mesh .exclusive).setInterpreter loaded.interpreter.retire) =
        (built, lending) := h.built

end Lending

/-- A call of a ready action works on the mesh and leaves the action as it is, or it disables the
action, which then leaves the interpreter. -/
theorem performReady_cases (h : a.isLoaded = true) (hooks : Hooks) (step : Step) (c : Coupling) :
    c.Works (a.performReady hooks step c).state ∧ (a.performReady hooks step c).action = a ∨
      ∃ e c', c.Works c' ∧
        a.performReady hooks step c =
          ⟨.error (.refused e), { a with state := .failed e }, c'.release⟩ := by
  unfold performReady
  split
  · exact .inl ⟨.refl c, rfl⟩
  · rename_i hcheck
    have hfree := Coupling.checkFree_eq_ok_iff.mp hcheck
    have hworks := works_runHooks a hooks step (c.setBorrow a.mesh .exclusive)
    split <;> rename_i heq <;> have hdone := (hworks.of_eq heq).taken hfree
    · exact .inl ⟨hdone, rfl⟩
    · rename_i e done
      refine .inr ⟨e, _, hdone.trans (.emit _ .error (disabledText a.module e)), ?_⟩
      simp only [disable, release, h, if_true]
    · exact .inl ⟨hdone, rfl⟩

end ScriptedAction

end FieldMesh

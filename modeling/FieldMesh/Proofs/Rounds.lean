import FieldMesh.Proofs.Entries

/-! # Rounds of the function for vertices

Once the mandatory function is done, the function for vertices is called for one vertex after the
other. What it returns is stored before the next call, so that a round which stops has written the
rows of the vertices in front of the one at which it stopped, and no others.
-/

namespace FieldMesh

theorem Coupling.mesh_setMesh_of_field {c : Coupling} {k : MeshKey} {i : Nat} {f : Field}
    (hf : (c.mesh k).fields[i]? = some f) (m : Mesh) : (c.setMesh k m).mesh k = m := by
  refine mesh_setMesh_self ?_ m
  by_contra hnone
  have hcell : c.cell? k = none := List.getElem?_eq_none (Nat.not_lt.mp hnone)
  rw [Coupling.mesh, hcell] at hf
  cases hf

theorem Coupling.Unexported.sealed_of_retired {c : Coupling} {k : MeshKey}
    (h : (c.setInterpreter c.interpreter.retire).Unexported k)
    (hrest : (c.setInterpreter c.interpreter.retire).AtRest) :
    (c.setInterpreter c.interpreter.retire).Sealed k := by
  intro id hlt
  obtain ⟨e, he⟩ : ∃ e, (c.setInterpreter c.interpreter.retire).interpreter.exporters[id]? =
    some e := ⟨_, List.getElem?_eq_getElem hlt⟩
  refine ⟨e, he, fun position hlent => ?_⟩
  have hclosed : c.interpreter.exports id = 0 := h id e position he hlent
  have hrevoked := hrest.revoked id e he
  simp only [setInterpreter, Interpreter.retire, List.getElem?_mapIdx] at he
  obtain ⟨kept, -, heq⟩ := Option.map_eq_some_iff.mp he
  split at heq <;> rename_i hgrants <;> cases heq
  · cases hlent
  · simp only [hrevoked, hclosed, beq_self_eq_true, Bool.and_self, not_true_eq_false] at hgrants

theorem Coupling.Sealed.unexported {c : Coupling} {k : MeshKey} (h : c.Sealed k) :
    c.Unexported k := by
  intro id e position he hlent
  obtain ⟨e', he', hcut⟩ := h id (List.getElem?_eq_some_iff.mp he).1
  cases he.symm.trans he'
  exact absurd hlent (hcut position)

theorem Coupling.close_of_closed {c : Coupling} {id : Nat}
    (h : (c.interpreter.revoke id).exports id = 0) :
    c.close id = (0, c.setInterpreter (c.interpreter.revoke id)) := by
  simp only [Coupling.close, h, Nat.lt_irrefl, if_false]

abbrev VertexFunction := VertexId → List Float → Value → Value → Program Value

/-- A call of the function for vertices: what it is given, what it answers, and the coupling before
and after it. -/
structure VertexCall where
  vertex : VertexId
  coords : List Float
  source : Value
  target : Value
  before : Coupling
  answer : Except Exn Value
  after : Coupling

namespace VertexCall

def Made (module : String) (callback : VertexFunction) (call : VertexCall) : Prop :=
  call.before.run module (callback call.vertex call.coords call.source call.target) =
    (call.answer, call.after)

/-- A call is given the vertex of a slot, where it lies, and its row in the source and in the target
of an action. -/
structure Sees (a : ScriptedAction) (m : Mesh) (slot : Nat) (call : VertexCall) : Prop where
  stands : ∃ v, m.vertices[slot]? = some v ∧ call.vertex = v.id ∧ call.coords = v.coords.toList
  source : m.Entry slot a.source call.source
  target : m.Entry slot a.target call.target

/-- What a call answers is accepted: either nothing, which leaves the coupling as it is after the
call, or what fills the row of the slot in the target, which is stored. -/
inductive Accepted (a : ScriptedAction) (slot : Nat) (call : VertexCall) :
    Option (List Float) → Coupling → Prop
  | nothing (answer : call.answer = .ok .none) : Accepted a slot call none call.after
  | row {v : Value} {d : FieldId} {f : Field} {new : List Float} (answer : call.answer = .ok v)
      (value : v.isNone = false) (target : a.target = some d)
      (stands : (call.after.mesh a.mesh).fields[d.raw]? = some f)
      (fills : v.Fills f.components new) :
      Accepted a slot call (some new) (call.after.setMesh a.mesh
        ((call.after.mesh a.mesh).setFieldValues d.raw (f.writeRow slot new).values))

/-- A call fails, and how that is reported: the function raises an exception, it returns a value
although there is no target, or the value does not fill a row of the target. But for the exception
the report says for which vertex the function was called. -/
inductive Fails (a : ScriptedAction) (call : VertexCall) : ActionError → Prop
  | raised {e : Exn} (answer : call.answer = .error e) :
      Fails a call (.hookFailed a.module Code.vertexHook e.message)
  | targetless {v : Value} (answer : call.answer = .ok v) (value : v.isNone = false)
      (target : a.target = none) :
      Fails a call (.hookFailed a.module Code.vertexHook
        s!"returned a value for vertex {call.vertex} but the action has no target data")
  | unfit {v : Value} {d : FieldId} {f : Field} {reason : String} (answer : call.answer = .ok v)
      (value : v.isNone = false) (target : a.target = some d)
      (stands : (call.after.mesh a.mesh).fields[d.raw]? = some f)
      (misfits : v.Misfits f.components reason) :
      Fails a call (.marshal a.module f.name s!"vertex {call.vertex}: {reason}")

end VertexCall

namespace ScriptedAction

/-- From a slot on, the function for vertices has been called for one vertex after the other, each
time where the call before it has left the coupling; every call saw its rows as they are in a mesh,
and what it answered has been accepted. -/
inductive Served (a : ScriptedAction) (callback : VertexFunction) (m : Mesh) :
    Nat → Coupling → List VertexCall → List (Option (List Float)) → Coupling → Prop
  | done (slot : Nat) (c : Coupling) : Served a callback m slot c [] [] c
  | next {slot : Nat} {call : VertexCall} {taken : Option (List Float)} {c d : Coupling}
      {calls : List VertexCall} {given : List (Option (List Float))}
      (made : call.Made a.module callback) (sees : call.Sees a m slot)
      (accepted : call.Accepted a slot taken c)
      (rest : Served a callback m (slot + 1) c calls given d) :
      Served a callback m slot call.before (call :: calls) (taken :: given) d

/-- The call for the vertex of a slot, made where a coupling has been left, fails. -/
structure Stops (a : ScriptedAction) (callback : VertexFunction) (m : Mesh) (slot : Nat)
    (c : Coupling) (call : VertexCall) (e : ActionError) : Prop where
  before : call.before = c
  made : call.Made a.module callback
  sees : call.Sees a m slot
  fails : call.Fails a e

/-- What an action works on: the fields at its ids, which cover the mesh. -/
structure Chosen (a : ScriptedAction) (m : Mesh) (fields : Selection) : Prop where
  source : fields.source.map (·.position) = a.source.map (·.raw)
  target : fields.target.map (·.position) = a.target.map (·.raw)
  sourceCovered : ∀ d, a.source = some d → m.Covered d
  targetCovered : ∀ d, a.target = some d → m.Covered d

theorem position_of_grants {m : Mesh} {o : Option FieldId} {p : Option Placed}
    (h : m.Grants o p) : p.map (·.position) = o.map (·.raw) := by
  cases o with
  | none =>
    cases p with
    | none => rfl
    | some q => exact h.elim
  | some d =>
    cases p with
    | none => exact h.elim
    | some q => exact congrArg some h.1

theorem chosen_of_select {a : ScriptedAction} {c : Coupling} {fields : Selection}
    (selected : a.select c = .ok fields) (numbered : (c.mesh a.mesh).Numbered) :
    a.Chosen (c.mesh a.mesh) fields := by
  obtain ⟨hsource, htarget, -, rfl⟩ := Mesh.select_eq_ok_iff.mp (mapError_eq_ok_iff.mp selected)
  exact ⟨position_of_grants ((Mesh.grants_bind_iff hsource).mpr fun d _ => numbered.owns d),
    position_of_grants ((Mesh.grants_bind_iff htarget).mpr fun d _ => numbered.owns d),
    hsource, htarget⟩

/-- In the middle of a round: no exporter stands for a field of the mesh, and the rows in front
have been given. -/
structure InRound (a : ScriptedAction) (m : Mesh) (given : List (Option (List Float)))
    (c : Coupling) : Prop where
  isSealed : c.Sealed a.mesh
  takes : m.Takes a.target given (c.mesh a.mesh)

variable {a : ScriptedAction} {m : Mesh} {fields : Selection} {c ran : Coupling}
  {given : List (Option (List Float))}

theorem InRound.userRun (h : a.InRound m given c) (hrun : c.UserRun ran) :
    a.InRound m given ran :=
  ⟨h.isSealed.of_eq hrun.confined.exporters, h.isSealed.mesh_eq hrun ▸ h.takes⟩

theorem exists_entry {k : MeshKey} {target : Option FieldId}
    (h : m.Takes target given (c.mesh k)) {o : Option FieldId} {p : Option Placed}
    (hposition : p.map (·.position) = o.map (·.raw)) (covered : ∀ d, o = some d → m.Covered d)
    (hlt : given.length < m.vertices.length) :
    ∃ row, rowAt c k p given.length = .ok row ∧ m.Entry given.length o (entryOf row) := by
  cases o with
  | none =>
    cases p with
    | none => exact ⟨none, rfl, .nothing⟩
    | some q => exact nomatch hposition
  | some d =>
    cases p with
    | none => exact nomatch hposition
    | some q =>
      obtain ⟨f, values, hf, hvalues, -, hcount, hread, -⟩ := h.exists_next (covered d rfl) hlt
      have hq : q.position = d.raw := Option.some.inj hposition
      refine ⟨some (f.rowOf given.length), ?_, Mesh.entry_entryOf hf hcount⟩
      simp only [rowAt, Option.bind_some, hq, hvalues, hread]

theorem storeRow_spec (chosen : a.Chosen m fields) {call : VertexCall}
    (h : a.InRound m given call.after) (hlt : given.length < m.vertices.length) {v : Value}
    (answer : call.answer = .ok v) (value : v.isNone = false) :
    (∃ taken next, call.Accepted a given.length taken next ∧
        a.InRound m (given ++ [taken]) next ∧
        a.storeRow fields.target given.length call.vertex v call.after = .ok next) ∨
      ∃ e, call.Fails a e ∧
        a.storeRow fields.target given.length call.vertex v call.after = .error (.refused e) := by
  have hposition := chosen.target
  cases htarget : a.target with
  | none =>
    rw [htarget, Option.map_none, Option.map_eq_none_iff] at hposition
    refine .inr ⟨_, .targetless answer value htarget, ?_⟩
    simp only [storeRow, hposition, Option.bind_none]
  | some d =>
    rw [htarget] at hposition
    obtain ⟨q, hq, hqd⟩ := Option.map_eq_some_iff.mp hposition
    obtain ⟨f, values, -, hvalues, hcovers, hcount, hread, hwrite⟩ :=
      h.takes.exists_next (chosen.targetCovered d htarget) hlt
    rcases v.takeRow_cases f.components with ⟨new, hnew, fills⟩ | ⟨reason, hreason, misfits⟩
    · refine .inl ⟨_, _, .row answer value htarget hvalues fills, ⟨?_, ?_⟩, ?_⟩
      · exact h.isSealed.of_eq rfl
      · rw [Coupling.mesh_setMesh_of_field hvalues, htarget]
        exact (htarget ▸ h.takes).write hvalues hcovers hlt fills.length_eq
      · simp only [storeRow, hq, Option.bind_some, hqd, hvalues, Option.map_some, hread, hcount,
          hnew, hwrite]
    · refine .inr ⟨_, .unfit answer value htarget hvalues misfits, ?_⟩
      simp only [storeRow, hq, Option.bind_some, hqd, hvalues, Option.map_some, hread, hcount,
        hreason]

/-- One call in a round: what it answers is accepted, or the round stops with the report of its
failure. -/
theorem runVertex_spec (chosen : a.Chosen m fields) (h : a.InRound m given c) {v : Vertex}
    (hv : m.vertices[given.length]? = some v) (callback : VertexFunction) :
    ∃ call : VertexCall, call.before = c ∧ call.Made a.module callback ∧
      call.Sees a m given.length ∧
      ((∃ taken next, call.Accepted a given.length taken next ∧
          a.InRound m (given ++ [taken]) next ∧
          a.runVertex callback fields v given.length c = (.ok (), next)) ∨
        ∃ e, call.Fails a e ∧
          a.runVertex callback fields v given.length c = (.error (.refused e), call.after)) := by
  have hlt := (List.getElem?_eq_some_iff.mp hv).1
  obtain ⟨source, hsource, hsees⟩ := exists_entry h.takes chosen.source chosen.sourceCovered hlt
  obtain ⟨target, htarget, hseen⟩ := exists_entry h.takes chosen.target chosen.targetCovered hlt
  rcases hran : c.run a.module
    (callback v.id v.coords.toList (entryOf source) (entryOf target)) with ⟨answer, ran⟩
  let call : VertexCall :=
    ⟨v.id, v.coords.toList, entryOf source, entryOf target, c, answer, ran⟩
  have hround : a.InRound m given call.after :=
    h.userRun ((Coupling.userRun_run a.module _ c).of_eq hran)
  refine ⟨call, rfl, hran, ⟨⟨v, hv, rfl, rfl⟩, hsees, hseen⟩, ?_⟩
  cases answer with
  | error e =>
    refine .inr ⟨_, .raised rfl, ?_⟩
    simp only [runVertex, hsource, htarget, hran, hookError, call]
  | ok value =>
    cases hnone : value.isNone with
    | true =>
      refine .inl ⟨none, ran, .nothing (congrArg Except.ok (Value.eq_none_of_isNone hnone)),
        ⟨hround.isSealed, hround.takes.skip⟩, ?_⟩
      simp only [runVertex, hsource, htarget, hran, hnone, if_true]
    | false =>
      rcases storeRow_spec chosen hround hlt rfl hnone with
        ⟨taken, next, accepted, hnext, hstore⟩ | ⟨e, fails, hstore⟩
      · change a.storeRow fields.target given.length v.id value ran = _ at hstore
        refine .inl ⟨taken, next, accepted, hnext, ?_⟩
        simp only [runVertex, hsource, htarget, hran, hnone, hstore, Bool.false_eq_true, if_false]
      · change a.storeRow fields.target given.length v.id value ran = _ at hstore
        refine .inr ⟨e, fails, ?_⟩
        simp only [runVertex, hsource, htarget, hran, hnone, hstore, Bool.false_eq_true, if_false,
          call]

/-- The rest of a round, by induction on the vertices that are left: they are served in order until
none is left, or a call fails. -/
theorem runVertices_spec (chosen : a.Chosen m fields) (callback : VertexFunction)
    {vertices : List Vertex} (h : a.InRound m given c)
    (hleft : m.vertices.drop given.length = vertices) :
    ∃ calls more d, a.Served callback m given.length c calls more d ∧
      a.InRound m (given ++ more) d ∧
      ((calls.length = vertices.length ∧
          a.runVertices callback fields (vertices.zipIdx given.length) c = (.ok (), d)) ∨
        ∃ call e, a.Stops callback m (given.length + calls.length) d call e ∧
          a.runVertices callback fields (vertices.zipIdx given.length) c =
            (.error (.refused e), call.after)) := by
  induction vertices generalizing given c with
  | nil => exact ⟨[], [], c, .done _ _, (List.append_nil given).symm ▸ h, .inl ⟨rfl, rfl⟩⟩
  | cons v rest ih =>
    have hv : m.vertices[given.length]? = some v := by
      rw [← List.head?_drop, hleft]
      rfl
    obtain ⟨call, rfl, made, sees, ⟨taken, next, accepted, hnext, hrun⟩ | ⟨e, fails, hrun⟩⟩ :=
      runVertex_spec chosen h hv callback
    · have hgiven : (given ++ [taken]).length = given.length + 1 := List.length_append
      have hrest : m.vertices.drop (given ++ [taken]).length = rest := by
        rw [hgiven, ← List.drop_drop, hleft]
        rfl
      obtain ⟨calls, more, d, served, hround, hend⟩ := ih hnext hrest
      rw [hgiven] at served hend
      rw [List.append_assoc] at hround
      refine ⟨call :: calls, taken :: more, d, .next made sees accepted served, hround, ?_⟩
      simp only [List.zipIdx_cons, runVertices, hrun]
      rcases hend with ⟨hlength, hdone⟩ | ⟨failing, e, stops, hstopped⟩
      · exact .inl ⟨congrArg Nat.succ hlength, hdone⟩
      · refine .inr ⟨failing, e, ?_, hstopped⟩
        rwa [List.length_cons, Nat.add_comm calls.length, ← Nat.add_assoc]
    · refine ⟨[], [], call.before, .done _ _, (List.append_nil given).symm ▸ h,
        .inr ⟨call, e, ⟨rfl, made, sees, fails⟩, ?_⟩⟩
      simp only [List.zipIdx_cons, runVertices, hrun]

/-! ## A call with a round -/

theorem InRound.runPost (h : a.InRound m given c) (hooks : Hooks) :
    m.Takes a.target given ((a.runPost hooks c).2.mesh a.mesh) := by
  unfold ScriptedAction.runPost
  split
  · exact h.takes
  · rename_i post _
    have hrun := Coupling.userRun_run a.module post c
    split <;> rename_i heq <;> exact (h.userRun (hrun.of_eq heq)).takes

/-- The callbacks: a whole round, and then the last function; or the round stops, and nothing else
runs. -/
theorem runCallbacks_spec {hooks : Hooks} {callback : VertexFunction}
    (chosen : a.Chosen (c.mesh a.mesh) fields) (isSealed : c.Sealed a.mesh)
    (vertex : hooks.vertex = some callback) :
    ∃ calls given d, a.Served callback (c.mesh a.mesh) 0 c calls given d ∧
      (c.mesh a.mesh).Takes a.target given ((a.runCallbacks hooks fields c).2.mesh a.mesh) ∧
      ((calls.length = (c.mesh a.mesh).vertices.length ∧
          a.runCallbacks hooks fields c = a.runPost hooks d) ∨
        ∃ call e, a.Stops callback (c.mesh a.mesh) calls.length d call e ∧
          a.runCallbacks hooks fields c = (.error (.refused e), call.after)) := by
  have hstarts : a.InRound (c.mesh a.mesh) [] c := ⟨isSealed, .nil _ _⟩
  have hall : (c.mesh a.mesh).vertices.drop 0 = (c.mesh a.mesh).vertices := List.drop_zero
  obtain ⟨calls, given, d, served, hround, hend⟩ := runVertices_spec chosen callback hstarts hall
  rw [List.nil_append] at hround
  rw [List.length_nil, Nat.zero_add] at hend
  refine ⟨calls, given, d, served, ?_⟩
  simp only [runCallbacks, runEachVertex, vertex]
  rcases hend with ⟨hlength, hdone⟩ | ⟨call, e, stops, hstopped⟩
  · rw [hdone]
    exact ⟨hround.runPost hooks, .inl ⟨hlength, rfl⟩⟩
  · rw [hstopped]
    have hran : d.UserRun call.after :=
      stops.before ▸ (Coupling.userRun_run a.module _ call.before).of_eq stops.made
    exact ⟨(hround.userRun hran).takes, .inr ⟨call, e, stops, rfl⟩⟩

theorem exists_retire_of_ok {hooks : Hooks} {step : Step} {kept : List FieldId} {left : Coupling}
    (h : a.runPerform hooks fields step c = (.ok (), kept, left)) :
    ∃ ended : Coupling, left = ended.setInterpreter ended.interpreter.retire := by
  rcases hbuilt : a.lendAll hooks fields (c.setInterpreter c.interpreter.retire) with
    ⟨e | lent, lending⟩
  · rw [runPerform_of_unlent hbuilt] at h
    exact nomatch h
  · rw [runPerform_of_lent hbuilt] at h
    exact ⟨_, (congrArg (·.2.2) h).symm⟩

/-- The mandatory function succeeds and keeps nothing when it raises nothing and all loans end
well. -/
theorem runPerform_of_returned {hooks : Hooks} {step : Step} {lending ended : Coupling}
    {lent : List LentField}
    (built : a.lendAll hooks fields (c.setInterpreter c.interpreter.retire) = (.ok lent, lending))
    (succeeded : lending.run a.module (hooks.perform
      [step.time, step.length, step.computed, step.window] (lent.map (·.loan.object))) =
        (.ok (), ran))
    (returned : ran.endLoans lent = ([], ended)) :
    a.runPerform hooks fields step c =
      (.ok (), [], ended.setInterpreter ended.interpreter.retire) := by
  rw [runPerform_of_lent built]
  simp only [succeeded, returned]
  rfl

/-- Where the mandatory function has succeeded, the fields are selected once more, and the answer is
that of the callbacks. -/
theorem performReady_of_succeeds {hooks : Hooks} {step : Step} {again : Selection}
    {left : Coupling} (free : c.borrow a.mesh = .free) (selected : a.select c = .ok fields)
    (succeeded : a.runPerform hooks fields step (c.setBorrow a.mesh .exclusive) =
      (.ok (), [], left)) (hagain : a.select left = .ok again) :
    a.performReady hooks step c =
      let done := a.runCallbacks hooks again left
      ⟨done.1, a, done.2.setBorrow a.mesh .free⟩ := by
  have hselected : a.select (c.setBorrow a.mesh .exclusive) = .ok fields := by
    rw [select, Coupling.mesh_setBorrow]
    exact selected
  simp only [performReady, Coupling.checkFree_eq_ok_iff.mpr free, runHooks, hselected, succeeded,
    hagain]
  rcases a.runCallbacks hooks again left with ⟨(e | fault) | _, d⟩ <;> rfl

/-- A call gets past the mandatory function: the functions are there, the mesh is free, the fields
cover it, and the mandatory function succeeds and keeps nothing. -/
structure Succeeds (a : ScriptedAction) (c : Coupling) (hooks : Hooks) (fields : Selection)
    (loaded : Coupling) (step : Step) (left : Coupling) : Prop where
  ensured : a.ensureLoaded c = (.ready hooks, loaded)
  free : loaded.borrow a.mesh = .free
  selected : a.select loaded = .ok fields
  succeeded : { a with state := .ready hooks }.runPerform hooks fields step
    (loaded.setBorrow a.mesh .exclusive) = (.ok (), [], left)
  unexported : left.Unexported a.mesh

namespace Succeeds

variable {hooks : Hooks} {loaded left : Coupling} {step : Step}

/-- A mandatory function of which no field comes back retained keeps nothing, if nothing had been
kept before. -/
theorem of_unexported (ensured : a.ensureLoaded c = (.ready hooks, loaded))
    (free : loaded.borrow a.mesh = .free) (selected : a.select loaded = .ok fields)
    (succeeded : { a with state := .ready hooks }.runPerform hooks fields step
      (loaded.setBorrow a.mesh .exclusive) = (.ok (), [], left))
    (numbered : (loaded.mesh a.mesh).Numbered) (unexported : loaded.Unexported a.mesh)
    (hrest : loaded.AtRest) : a.Succeeds c hooks fields loaded step left := by
  refine ⟨ensured, free, selected, succeeded, ?_⟩
  rcases hbuilt : { a with state := .ready hooks }.lendAll hooks fields
    ((loaded.setBorrow a.mesh .exclusive).setInterpreter loaded.interpreter.retire) with
    ⟨e | lent, lending⟩
  · rw [runPerform_of_unlent (c := loaded.setBorrow a.mesh .exclusive) hbuilt] at succeeded
    cases succeeded
  · have hlending : a.Lending c hooks fields loaded (.ok lent) lending :=
      ⟨ensured, free, selected, hbuilt⟩
    rcases hended : (a.afterPerform hooks step lent lending).endLoans lent with ⟨errors, ended⟩
    have hsealed :=
      (hlending.returned numbered unexported hrest step hended).sealed_detachRetained
    obtain ⟨outcome, hperform⟩ := hlending.runPerform_eq step hended
    rw [succeeded] at hperform
    simp only [Prod.mk.injEq] at hperform
    obtain ⟨-, hkept, hleft⟩ := hperform
    rw [Coupling.detachRetained, ← hkept, List.foldl_nil, ← hleft] at hsealed
    exact hsealed.unexported

theorem isSealed (h : a.Succeeds c hooks fields loaded step left) (hrest : loaded.AtRest) :
    left.Sealed a.mesh := by
  have hworks := works_runPerform { a with state := .ready hooks } hooks step fields
    (loaded.setBorrow a.mesh .exclusive)
  obtain ⟨ended, hended⟩ := exists_retire_of_ok h.succeeded
  rw [h.succeeded] at hworks
  have hleft := hworks.atRest (hrest.of_eq rfl rfl)
  have hunexported := h.unexported
  rw [hended] at hleft hunexported ⊢
  exact hunexported.sealed_of_retired hleft

theorem exists_chosen (h : a.Succeeds c hooks fields loaded step left)
    (numbered : (loaded.mesh a.mesh).Numbered) :
    ∃ again, { a with state := .ready hooks }.Chosen (left.mesh a.mesh) again ∧
      a.perform step c =
        let done := { a with state := .ready hooks }.runCallbacks hooks again left
        ⟨done.1, { a with state := .ready hooks }, done.2.setBorrow a.mesh .free⟩ := by
  have halike := alike_runPerform { a with state := .ready hooks } hooks fields step
    (loaded.setBorrow a.mesh .exclusive) a.mesh
  rw [h.succeeded, Coupling.mesh_setBorrow] at halike
  have again := select_of_alike (a := { a with state := .ready hooks }) halike h.selected
  refine ⟨_, chosen_of_select again (halike.numbered numbered), ?_⟩
  simp only [perform, h.ensured]
  exact performReady_of_succeeds h.free h.selected h.succeeded again

end Succeeds

end ScriptedAction

namespace Usage

/-- What follows on a mandatory function that has succeeded and has kept nothing, whatever the
function for vertices does. It is called for the vertices in their order, and sees the rows as the
mandatory function has left them. What it returned for the vertices in front is in the target, and
nothing else of the mesh has changed. Either all vertices have been served, and the last function
has run; or a call has failed, which is reported, and nothing has run after it. -/
theorem vertices_served (disk : Disk) (searchPath : List String) (modules : List Loaded)
    (events : List UsageEvent) (step : Step) {a : ScriptedAction} {hooks : Hooks}
    {fields : Selection} {loaded left : Coupling} {callback : VertexFunction}
    (succeeds : a.Succeeds ((start disk searchPath modules).run events).coupling hooks fields loaded
      step left)
    (numbered : (loaded.mesh a.mesh).Numbered) (vertex : hooks.vertex = some callback) :
    let ready := { a with state := .ready hooks }
    let m := left.mesh a.mesh
    let performed := a.perform step ((start disk searchPath modules).run events).coupling
    performed.action = ready ∧
      ∃ calls given d, ready.Served callback m 0 left calls given d ∧
        m.Takes a.target given (performed.state.mesh a.mesh) ∧
        ((calls.length = m.vertices.length ∧ performed.answer = (ready.runPost hooks d).1 ∧
            performed.state = (ready.runPost hooks d).2.setBorrow a.mesh .free) ∨
          ∃ call e, ready.Stops callback m calls.length d call e ∧
            performed.answer = .error (.refused e) ∧
            performed.state = call.after.setBorrow a.mesh .free) := by
  intro ready m performed
  have hrest : loaded.AtRest := by
    obtain ⟨hpasses, -⟩ := passes_run (accounts_start disk searchPath modules) events
    obtain ⟨_, hloads⟩ := ScriptedAction.passes_ensureLoaded succeeds.ensured
    exact hloads.atRest (hpasses.atRest ⟨rfl, fun _ _ he => nomatch he⟩)
  obtain ⟨again, chosen, hperformed⟩ := succeeds.exists_chosen numbered
  obtain ⟨calls, given, d, served, takes, hend⟩ :=
    ScriptedAction.runCallbacks_spec chosen (succeeds.isSealed hrest) vertex
  have hmesh : performed.state.mesh a.mesh = (ready.runCallbacks hooks again left).2.mesh a.mesh :=
    (congrArg (·.state.mesh a.mesh) hperformed).trans (Coupling.mesh_setBorrow _ _ _ _)
  refine ⟨congrArg (·.action) hperformed, calls, given, d, served, hmesh ▸ takes, ?_⟩
  rcases hend with ⟨hlength, hdone⟩ | ⟨call, e, stops, hstopped⟩
  · rw [hdone] at hperformed
    exact .inl ⟨hlength, congrArg (·.answer) hperformed, congrArg (·.state) hperformed⟩
  · rw [hstopped] at hperformed
    exact .inr ⟨call, e, stops, congrArg (·.answer) hperformed, congrArg (·.state) hperformed⟩

/-- The functions of a module that gives one vertex a row, and others too many values. -/
def giving : Hooks where
  perform _ _ := .done (.ok ())
  vertex := some fun v _ _ row => .done (.ok (if v = ⟨1⟩ then .float 3 else .tuple [row, row]))
  post := none
  arrays := some "numpy"

def givers : List Loaded :=
  [.fresh "act" none none ⟨.done (.ok ()), some giving.perform, giving.vertex, none, none⟩,
    .fresh "numpy" none none ⟨.done (.ok ()), none, none, none, some fun o => .query (.window o)⟩]

/-- What is left of a mesh when its first vertex has been removed: two others, with values. -/
def remnant : Mesh :=
  Edit.run (.plane "m")
    [.createVertex [0, 0], .createVertex [1, 0], .createVertex [2, 0], .createField "f" 1,
      .allocate, .setValues ⟨0⟩ [7, 1, 5], .removeVertex ⟨0⟩]

def giver (state : ModuleState) : ScriptedAction :=
  ⟨.regularPost, "", "act", ⟨0⟩, none, some ⟨0⟩, state⟩

def giverEvents : List UsageEvent :=
  [.meshes [⟨remnant, .free⟩], .create .regularPost "" "act" ⟨0⟩ none (some ⟨0⟩)]

def givenFields : Selection := ⟨none, some ⟨0, ⟨⟨0⟩, "f", 1, [1, 5], true⟩⟩⟩

def givenWindow : Object := .window ⟨0, 0, .ofBytes 16 1⟩

def during (c : Coupling) (memory : Memory) (revoked : Bool) (frame : List Object) : Coupling :=
  { c with
    cells := [⟨remnant, .exclusive⟩]
    interpreter := { c.interpreter with
      exporters := [⟨memory, 16, .ofBytes 16 1, true, revoked⟩], holds := 1, frame } }

theorem succeeds_giver {loaded : Coupling}
    (hensured : (giver .unloaded).ensureLoaded
      ((start default [] givers).run giverEvents).coupling = (.ready giving, loaded))
    (numbered : (loaded.mesh ⟨0⟩).Numbered) (hcells : loaded.cells = [⟨remnant, .free⟩])
    (hinterpreter : ∃ searchPath, loaded.interpreter =
      ⟨default, searchPath, [], givers, [], 0, [], [], [], [], []⟩) :
    (giver .unloaded).Succeeds ((start default [] givers).run giverEvents).coupling giving
      givenFields loaded ⟨0, 0, 0, 0⟩ (during loaded .unreachable true []) := by
  obtain ⟨cells, log, notes, interpreter, lease⟩ := loaded
  obtain ⟨searchPath, hinterpreter⟩ := hinterpreter
  cases hcells
  cases hinterpreter
  refine .of_unexported hensured rfl rfl ?_ numbered (fun _ _ _ he => nomatch he)
    ⟨rfl, fun _ _ he => nomatch he⟩
  generalize hloaded : Coupling.mk _ log notes _ lease = loaded at hensured ⊢
  have hbuilt : (giver (.ready giving)).lendAll giving givenFields
      ((loaded.setBorrow ⟨0⟩ .exclusive).setInterpreter loaded.interpreter.retire) =
        (.ok [⟨⟨0⟩, "f", .array 0 givenWindow⟩],
          during loaded (.lent ⟨0⟩ 0) false [givenWindow]) := by
    subst hloaded
    rfl
  have hclosed : (during loaded (.lent ⟨0⟩ 0) true []).interpreter.exports 0 = 0 := by
    subst hloaded
    rfl
  have hended : (during loaded (.lent ⟨0⟩ 0) false [givenWindow]).endLoans
      [⟨⟨0⟩, "f", .array 0 givenWindow⟩] = ([], during loaded (.lent ⟨0⟩ 0) true []) := by
    have hclose : (during loaded (.lent ⟨0⟩ 0) false []).close 0 =
        (0, during loaded (.lent ⟨0⟩ 0) true []) := Coupling.close_of_closed hclosed
    have hlet : (during loaded (.lent ⟨0⟩ 0) false [givenWindow]).letGo givenWindow =
        during loaded (.lent ⟨0⟩ 0) false [] := rfl
    simp only [Coupling.endLoans, Coupling.endLoan, Loan.object, hlet, hclose, if_true]
  refine (ScriptedAction.runPerform_of_returned hbuilt rfl hended).trans ?_
  subst hloaded
  rfl

/-- The call for the second vertex fails, and the first row has been given by then. -/
theorem vertices_served_giver :
    let u := (start default [] givers).run giverEvents
    let performed := (giver .unloaded).perform ⟨0, 0, 0, 0⟩ u.coupling
    u.actions[0]? = some (giver .unloaded) ∧
      (∃ fields loaded left,
        (giver .unloaded).Succeeds u.coupling giving fields loaded ⟨0, 0, 0, 0⟩ left ∧
          (loaded.mesh ⟨0⟩).Numbered ∧ left.mesh ⟨0⟩ = remnant) ∧
      performed.action = giver (.ready giving) ∧
      (∃ text, performed.answer = .error (.refused (.marshal "act" "f" text))) ∧
      (performed.state.mesh ⟨0⟩).fields.map (·.values) = [[3, 5]] := by
  intro u performed
  obtain ⟨loaded, searchPath, hensured, hcells, hinterpreter⟩ :=
    ScriptedAction.ensureLoaded_of_isLoaded (a := giver .unloaded) (c := u.coupling) rfl
      (Splitting.splitOn_ofList ['a', 'c', 't'] '.') rfl rfl rfl
  have hnumbered : (loaded.mesh ⟨0⟩).Numbered := by
    rw [Coupling.mesh, Coupling.cell?, hcells]
    intro i f hf
    rcases i with _ | i <;> cases hf
    rfl
  have hsucceeds := succeeds_giver hensured hnumbered hcells ⟨searchPath, hinterpreter⟩
  have hserved := vertices_served default [] givers giverEvents ⟨0, 0, 0, 0⟩ hsucceeds hnumbered rfl
  have hperformed : performed =
      let done := (giver (.ready giving)).runCallbacks giving givenFields
        (during loaded .unreachable true [])
      ⟨done.1, giver (.ready giving), done.2.setBorrow ⟨0⟩ .free⟩ := by
    have again : (giver (.ready giving)).select (during loaded .unreachable true []) =
      .ok givenFields := rfl
    refine Eq.trans ?_ (ScriptedAction.performReady_of_succeeds (a := giver (.ready giving))
      hsucceeds.free hsucceeds.selected hsucceeds.succeeded again)
    simp only [performed, ScriptedAction.perform, hensured]
    rfl
  refine ⟨rfl, ⟨_, _, _, hsucceeds, hnumbered, rfl⟩, hserved.1, ?_⟩
  rw [hperformed]
  exact ⟨⟨_, rfl⟩, rfl⟩

end Usage

end FieldMesh

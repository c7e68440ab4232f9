import FieldMesh.Proofs.Calls
import Mathlib.Data.List.Induction

/-! # The life of a scripted action

A scripted action is loaded by its first call and never again. From then on it is ready, until a
call finds that the module still refers to memory it was lent, or it has been disabled from the
start because it could not be loaded. A disabled action stays disabled and does nothing.
-/

namespace FieldMesh

namespace Coupling

variable {c : Coupling}

/-! ## Users of the interpreter -/

/-- There is one user more, and the meshes are in use as before. -/
structure Joined (c c' : Coupling) : Prop where
  users : c'.lease.users = c.lease.users + 1
  borrow : ∀ k, c'.borrow k = c.borrow k

theorem joined_acquire (c : Coupling) : c.Joined c.acquire := by
  unfold acquire
  split <;> exact ⟨rfl, fun _ => rfl⟩

namespace Joined

variable {c' c'' : Coupling}

theorem keeps (h : c.Joined c') (hkeeps : c'.Keeps c'') : c.Joined c'' where
  users := by rw [hkeeps.lease, h.users]
  borrow k := by rw [hkeeps.borrow, h.borrow]

theorem addPlace (h : c.Joined c') (place : String) : c.Joined (c'.addPlace place) := by
  unfold Coupling.addPlace
  split
  · exact h
  · exact ⟨h.users, h.borrow⟩

theorem track (h : c.Joined c') (names : List String) : c.Joined (c'.track names) :=
  ⟨h.users, h.borrow⟩

theorem release (h : c.Joined c') :
    c'.release.lease.users = c.lease.users ∧ ∀ k, c'.release.borrow k = c.borrow k := by
  constructor
  · rw [users_release, h.users, Nat.add_sub_cancel]
  · intro k
    rw [← h.borrow k, Coupling.release]
    simp only
    split <;> rfl

end Joined

end Coupling

namespace ScriptedAction

variable {a : ScriptedAction} {hooks : Hooks} {step : Step} {c c' : Coupling}

/-! ## Memory that is kept -/

/-- The mandatory function, run on the lent fields, leaves the module with memory that it still
refers to when the loans are ended. -/
def KeepsLent (a : ScriptedAction) (hooks : Hooks) (fields : Selection) (step : Step)
    (c : Coupling) : Prop :=
  ∃ lent lending,
    a.lendAll hooks fields (c.setInterpreter c.interpreter.retire) = (.ok lent, lending) ∧
    let times := [step.time, step.length, step.computed, step.window]
    let ran := (lending.run a.module (hooks.perform times (lent.map (·.loan.object)))).2
    ∃ before f after, lent = before ++ f :: after ∧ (ran.endLoans before).2.Retains f.loan

/-- A call of a loaded action finds after the mandatory function that the module still refers to
memory it was lent. -/
def FindsKept (a : ScriptedAction) (hooks : Hooks) (step : Step) (c : Coupling) : Prop :=
  c.borrow a.mesh = .free ∧
    let taken := c.setBorrow a.mesh .exclusive
    ∃ fields, a.select taken = .ok fields ∧ a.KeepsLent hooks fields step taken

/-- The functions of a module that stores the first array it is lent. -/
def storing : Hooks where
  perform _ objects :=
    match objects with
    | o :: _ => .ask (.store o) fun _ => .done (.ok ())
    | [] => .done (.ok ())
  vertex := none
  post := none
  arrays := none

example :
    let empty : Mesh := ⟨"m", 2, [], ∅, 0, [], [], [], []⟩
    let point := Edit.run empty [.createVertex [0, 0], .createField "f" 1, .allocate]
    let a := new .regularPrior "" "m" ⟨0⟩ none (some ⟨0⟩)
    a.FindsKept storing ⟨0, 0, 0, 0⟩ ((Coupling.start default).share point).2 :=
  ⟨rfl, _, rfl, _, _, rfl, [], _, [], rfl, _, _, rfl, _, .head _, rfl⟩

theorem kept_eq_nil_iff (fields : Selection) :
    (a.runPerform hooks fields step c).2.1 = [] ↔ ¬ a.KeepsLent hooks fields step c := by
  simp only [runPerform, KeepsLent]
  split
  · rename_i heq
    refine iff_of_true rfl ?_
    rintro ⟨lent, lending, hlent, -⟩
    cases heq.symm.trans hlent
  · rename_i lent lending heq
    rw [List.map_eq_nil_iff, List.filter_eq_nil_iff]
    constructor
    · rintro hnone ⟨lent', lending', hlent, hkept⟩
      cases heq.symm.trans hlent
      obtain ⟨e, he, hretained⟩ := (Coupling.exists_retained_iff lent _).mpr hkept
      exact hnone e he hretained
    · intro hnot e he hretained
      exact hnot ⟨lent, lending, heq, (Coupling.exists_retained_iff lent _).mp ⟨e, he, hretained⟩⟩

theorem runHooks_of_kept {fields : Selection} (hfields : a.select c = .ok fields)
    (hkept : a.KeepsLent hooks fields step c) :
    ∃ e, (a.runHooks hooks step c).1 = .error ⟨.refused e, true⟩ := by
  have hne := mt (kept_eq_nil_iff fields).mp (not_not_intro hkept)
  simp only [runHooks, hfields]
  split
  · rename_i heq
    exact absurd (congrArg (·.2.1) heq) hne
  · rename_i heq
    exact absurd (congrArg (·.2.1) heq) hne
  · exact ⟨_, rfl⟩

theorem runHooks_of_not_kept
    (hnot : ¬ ∃ fields, a.select c = .ok fields ∧ a.KeepsLent hooks fields step c) :
    (a.runHooks hooks step c).1 = .ok () ∨
      ∃ e, (a.runHooks hooks step c).1 = .error ⟨e, false⟩ := by
  unfold runHooks
  split
  · exact .inr ⟨_, rfl⟩
  · rename_i fields hfields
    have hnil : (a.runPerform hooks fields step c).2.1 = [] :=
      (kept_eq_nil_iff fields).mpr fun hkept => hnot ⟨fields, hfields, hkept⟩
    split
    · exact .inr ⟨_, rfl⟩
    · split
      · exact .inr ⟨_, rfl⟩
      · rename_i fields _
        simp only
        cases (a.runCallbacks hooks fields _).1 with
        | ok u => exact .inl rfl
        | error e => exact .inr ⟨e, rfl⟩
    · rename_i outcome kept performed hfailed hdone heq
      rw [heq] at hnil
      cases outcome with
      | error e => exact (hfailed e rfl hnil).elim
      | ok u => exact (hdone rfl hnil).elim

/-! ## One call -/

/-- What a call of a ready action does: nothing if the mesh is in use, and otherwise it runs the
functions. If memory is kept the error of the call disables the action, which does not use the
interpreter any more; whatever else fails, the action is as before and nothing is loaded. -/
structure RunsReady (a : ScriptedAction) (hooks : Hooks) (step : Step) (c : Coupling) : Prop where
  busy : ∀ e, c.checkFree a.mesh = .error e → a.perform step c = ⟨.error (.refused e), a, c⟩
  kept : a.FindsKept hooks step c → ∃ e, (a.perform step c).answer = .error (.refused e) ∧
    (a.perform step c).action = { a with state := .failed e } ∧
    (a.perform step c).state.lease.users = c.lease.users - 1
  notKept : c.borrow a.mesh = .free → ¬ a.FindsKept hooks step c →
    let ran := a.runHooks hooks step (c.setBorrow a.mesh .exclusive)
    a.perform step c = ⟨ran.1.mapError (·.error), a, ran.2.setBorrow a.mesh .free⟩ ∧
      c.Keeps (a.perform step c).state

/-- What the first call of an action does: it imports the module before the mesh is borrowed. It
goes on as a call of the ready action, or the action is disabled and does not use the
interpreter. -/
structure LoadsFirst (a : ScriptedAction) (step : Step) (c : Coupling) : Prop where
  loaded : ∀ hooks c', importHooks a.module (a.directory c.interpreter.disk) c = (.ok hooks, c') →
    let ready := { a with state := .ready hooks }
    c.Joined c' ∧ a.perform step c = ready.perform step c' ∧ ready.RunsReady hooks step c'
  refused : ∀ e c', importHooks a.module (a.directory c.interpreter.disk) c = (.error e, c') →
    c'.lease.users = c.lease.users ∧ (∀ k, c'.borrow k = c.borrow k) ∧
      a.perform step c = ⟨.error (.refused e), { a with state := .failed e },
        c'.emit .error (disabledText a.module e)⟩

theorem runsReady (h : a.state = .ready hooks) : a.RunsReady hooks step c := by
  have hworks := works_runHooks a hooks step (c.setBorrow a.mesh .exclusive)
  have hcheck (hfree : c.borrow a.mesh = .free) : c.checkFree a.mesh = .ok () :=
    Coupling.checkFree_eq_ok_iff.mpr hfree
  constructor
  · intro e he
    rw [perform_ready h, performReady, he]
  · rintro ⟨hfree, fields, hfields, hkept⟩
    obtain ⟨e, he⟩ := runHooks_of_kept hfields hkept
    rw [perform_ready h, performReady, hcheck hfree]
    simp only
    split <;> rename_i heq <;> rw [heq] at he hworks <;> cases he
    · refine ⟨e, rfl, rfl, ?_⟩
      rw [disable, release, isLoaded, h]
      exact (Coupling.users_release _).trans (congrArg (·.users - 1) hworks.lease)
    · rename_i hdisables
      exact (hdisables e rfl rfl).elim
  · intro hfree hnot
    have hran := runHooks_of_not_kept fun hkept => hnot ⟨hfree, hkept⟩
    rw [perform_ready h, performReady, hcheck hfree]
    simp only
    split <;> rename_i heq <;> rw [heq] at hran hworks ⊢
    · exact ⟨rfl, (hworks.taken hfree).toKeeps⟩
    · obtain hdone | ⟨_, hfailed⟩ := hran
      · cases hdone
      · cases hfailed
    · exact ⟨rfl, (hworks.taken hfree).toKeeps⟩

/-- A call of a ready action leaves it as it was unless it finds kept memory. -/
theorem RunsReady.action_eq (h : a.RunsReady hooks step c) (hnot : ¬ a.FindsKept hooks step c) :
    (a.perform step c).action = a := by
  cases hcheck : c.checkFree a.mesh with
  | error e => rw [h.busy e hcheck]
  | ok u => rw [(h.notKept (Coupling.checkFree_eq_ok_iff.mp hcheck) hnot).1]

/-- Importing the functions of a module makes one user more, and none if it fails. -/
theorem importHooks_cases (module directory : String) (c : Coupling) :
    (∃ hooks c', importHooks module directory c = (.ok hooks, c') ∧ c.Joined c') ∨
      ∃ e c', importHooks module directory c = (.error e, c'.release) ∧ c.Joined c' := by
  have hplaced := (c.joined_acquire.addPlace directory).keeps
    (Coupling.confined_load module _).toKeeps
  simp only [importHooks]
  split
  · exact .inr ⟨_, _, rfl, hplaced.track _⟩
  · split <;> rename_i heq <;> have htaken := ((works_takeHooks module directory _).of_eq heq).toKeeps
    · exact .inr ⟨_, _, rfl, (hplaced.track _).keeps htaken⟩
    · exact .inl ⟨_, _, rfl, (hplaced.track _).keeps htaken⟩

theorem loadsFirst (h : a.state = .unloaded) : a.LoadsFirst step c := by
  have hcases := importHooks_cases a.module (a.directory c.interpreter.disk) c
  constructor
  · intro hooks c' heq
    obtain ⟨_, _, hok, hjoined⟩ | ⟨_, _, herror, _⟩ := hcases
    · cases heq.symm.trans hok
      refine ⟨hjoined, ?_, runsReady rfl⟩
      simp only [perform, ensureLoaded, h, heq]
    · cases heq.symm.trans herror
  · intro e c' heq
    obtain ⟨_, _, hok, _⟩ | ⟨_, _, herror, hjoined⟩ := hcases
    · cases heq.symm.trans hok
    · cases heq.symm.trans herror
      refine ⟨hjoined.release.1, hjoined.release.2, ?_⟩
      simp only [perform, ensureLoaded, h, heq]

/-! ## Any calls -/

/-- An action after some calls, each with the state it was made in. -/
def after (a : ScriptedAction) (calls : List (Step × Coupling)) : ScriptedAction :=
  calls.foldl (fun a call => (a.perform call.1 call.2).action) a

theorem after_append_singleton (calls : List (Step × Coupling)) (call : Step × Coupling) :
    a.after (calls ++ [call]) = ((a.after calls).perform call.1 call.2).action := by
  simp [after, List.foldl_append]

theorem after_of_failed {e : ActionError} (h : a.state = .failed e)
    (calls : List (Step × Coupling)) : a.after calls = a := by
  induction calls with
  | nil => rfl
  | cons call calls ih =>
    rw [after, List.foldl_cons, perform_failed h]
    exact ih

/-- Where the state of an action comes from: its functions are those that the first call loaded,
and the error that disables it is the one that the disabling call answered. -/
def Origin (fresh : ScriptedAction) (calls : List (Step × Coupling)) : ModuleState → Prop
  | .unloaded => calls = []
  | .ready hooks => ∃ first rest, calls = first :: rest ∧
      (importHooks fresh.module (fresh.directory first.2.interpreter.disk) first.2).1 = .ok hooks
  | .failed e => ∃ before call later, calls = before ++ call :: later ∧
      (fresh.after before).failure? = none ∧
      ((fresh.after before).perform call.1 call.2).answer = .error (.refused e) ∧
      ((fresh.after before).perform call.1 call.2).action.state = .failed e

theorem origin_extend {fresh : ScriptedAction} {calls : List (Step × Coupling)}
    {state : ModuleState} (h : fresh.Origin calls state) (hne : calls ≠ [])
    (call : Step × Coupling) : fresh.Origin (calls ++ [call]) state := by
  cases state with
  | unloaded => exact (hne h).elim
  | ready hooks =>
    obtain ⟨first, rest, rfl, hloaded⟩ := h
    exact ⟨first, rest ++ [call], rfl, hloaded⟩
  | failed e =>
    obtain ⟨before, disabling, later, rfl, hfailed⟩ := h
    exact ⟨before, disabling, later ++ [call], by simp, hfailed⟩

theorem action_of_ready (h : a.state = .ready hooks) :
    (a.perform step c).action = { a with state := (a.perform step c).action.state } := by
  have hruns : a.RunsReady hooks step c := runsReady h
  by_cases hkept : a.FindsKept hooks step c
  · obtain ⟨e, -, haction, -⟩ := hruns.kept hkept
    rw [haction]
  · rw [hruns.action_eq hkept]

theorem action_perform (a : ScriptedAction) (step : Step) (c : Coupling) :
    (a.perform step c).action = { a with state := (a.perform step c).action.state } := by
  cases h : a.state with
  | unloaded =>
    have hfirst : a.LoadsFirst step c := loadsFirst h
    rcases heq : importHooks a.module (a.directory c.interpreter.disk) c with ⟨e | hooks, c'⟩
    · rw [(hfirst.refused e c' heq).2.2]
    · rw [(hfirst.loaded hooks c' heq).2.1]
      exact action_of_ready rfl
  | ready hooks => exact action_of_ready h
  | failed e => rw [perform_failed h]

theorem action_after (a : ScriptedAction) (calls : List (Step × Coupling)) :
    a.after calls = { a with state := (a.after calls).state } := by
  induction calls using List.reverseRecOn with
  | nil => rfl
  | append_singleton calls call ih =>
    rw [after_append_singleton, action_perform]
    simp only
    rw [ih]

theorem origin_of_disabling {fresh : ScriptedAction} {calls : List (Step × Coupling)}
    {e : ActionError} (hnone : (fresh.after calls).failure? = none)
    (hanswer : ((fresh.after calls).perform step c).answer = .error (.refused e))
    (hfailed : ((fresh.after calls).perform step c).action.state = .failed e) :
    fresh.Origin (calls ++ [(step, c)]) ((fresh.after calls).perform step c).action.state := by
  rw [hfailed]
  exact ⟨calls, (step, c), [], rfl, hnone, hanswer, hfailed⟩

theorem origin_of_ready {fresh b : ScriptedAction} {calls : List (Step × Coupling)}
    (hb : b.state = .ready hooks) (hnone : (fresh.after calls).failure? = none)
    (hdone : (fresh.after calls).perform step c = b.perform step c')
    (hloaded : fresh.Origin (calls ++ [(step, c)]) (.ready hooks)) :
    fresh.Origin (calls ++ [(step, c)]) ((fresh.after calls).perform step c).action.state := by
  have hruns : b.RunsReady hooks step c' := runsReady hb
  by_cases hkept : b.FindsKept hooks step c'
  · obtain ⟨e, hanswer, haction, -⟩ := hruns.kept hkept
    exact origin_of_disabling hnone (by rw [hdone, hanswer]) (by rw [hdone, haction])
  · rw [hdone, hruns.action_eq hkept, hb]
    exact hloaded

theorem origin_perform {fresh : ScriptedAction} {calls : List (Step × Coupling)}
    (h : fresh.Origin calls (fresh.after calls).state) (step : Step) (c : Coupling) :
    fresh.Origin (calls ++ [(step, c)]) ((fresh.after calls).perform step c).action.state := by
  cases hstate : (fresh.after calls).state with
  | unloaded =>
    rw [hstate] at h
    cases h
    have hfirst : (fresh.after []).LoadsFirst step c := loadsFirst hstate
    have hnone : (fresh.after []).failure? = none := by rw [failure?, hstate]
    rcases heq : importHooks fresh.module (fresh.directory c.interpreter.disk) c
      with ⟨e | hooks, c'⟩
    · have hdone := (hfirst.refused e c' heq).2.2
      exact origin_of_disabling hnone (by rw [hdone]) (by rw [hdone])
    · exact origin_of_ready rfl hnone (hfirst.loaded hooks c' heq).2.1
        ⟨(step, c), [], rfl, congrArg Prod.fst heq⟩
  | ready hooks =>
    rw [hstate] at h
    have hne : calls ≠ [] := by
      obtain ⟨first, rest, rfl, -⟩ := h
      exact List.cons_ne_nil first rest
    exact origin_of_ready hstate (by rw [failure?, hstate]) rfl (origin_extend h hne _)
  | failed e =>
    rw [hstate] at h
    have hne : calls ≠ [] := by
      obtain ⟨before, call, later, rfl, -⟩ := h
      exact List.append_ne_nil_of_right_ne_nil before (List.cons_ne_nil call later)
    rw [perform_failed hstate, hstate]
    exact origin_extend h hne _

theorem origin_after {fresh : ScriptedAction} (h : fresh.state = .unloaded)
    (calls : List (Step × Coupling)) : fresh.Origin calls (fresh.after calls).state := by
  induction calls using List.reverseRecOn with
  | nil =>
    rw [show fresh.after [] = fresh from rfl, h]
    rfl
  | append_singleton calls call ih =>
    rw [after_append_singleton]
    exact origin_perform ih call.1 call.2

/-- Nothing is loaded before the first call, and that call alone loads: it leaves the action ready
or disabled. A ready action stays ready with the functions it has, whatever the module does and
however the mesh is in use, except that a call that finds kept memory disables it. A disabled
action answers the error that disabled it for good, and its calls change nothing. -/
theorem lifecycle_of_calls (timing : Timing) (path module : String) (mesh : MeshKey)
    (source target : Option FieldId) (calls : List (Step × Coupling)) (step : Step)
    (c : Coupling) :
    let fresh := new timing path module mesh source target
    let a := fresh.after calls
    a = { fresh with state := a.state } ∧ fresh.Origin calls a.state ∧
      match a.state with
      | .unloaded => a.LoadsFirst step c ∧ (a.perform step c).action.state ≠ .unloaded
      | .ready hooks => a.RunsReady hooks step c
      | .failed e =>
        a.perform step c = ⟨.error (.refused e), a, c⟩ ∧ ∀ later, a.after later = a := by
  intro fresh a
  have horigin : fresh.Origin calls a.state := origin_after rfl calls
  refine ⟨action_after fresh calls, horigin, ?_⟩
  cases hstate : a.state with
  | unloaded =>
    refine ⟨loadsFirst hstate, ?_⟩
    intro hunloaded
    have hnext := origin_perform horigin step c
    rw [show (fresh.after calls).perform step c = a.perform step c from rfl, hunloaded] at hnext
    simp [Origin] at hnext
  | ready hooks => exact runsReady hstate
  | failed e => exact ⟨perform_failed hstate, after_of_failed hstate⟩

end ScriptedAction

end FieldMesh

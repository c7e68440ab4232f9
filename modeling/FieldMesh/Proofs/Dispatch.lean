import FieldMesh.Action.Build
import FieldMesh.Proofs.Groups
import Mathlib.Data.List.Forall2
import Mathlib.Logic.Relation

/-! # Dispatch

Performing a timing runs the actions of that timing one after the other. Each of them finds the
state that the one before it left, and the first one that fails ends the performance. Actions keep
their places: registering appends, and performing leaves in every place what the run of the action
in it has made of it.
-/

namespace FieldMesh

/-- Actions whose timing never changes. -/
class SteadyTiming (α : Type) {ω : Type} [Performable α ω] : Prop where
  timing_perform (a : α) (step : Step) (s : ω) :
    Performable.timing (Performable.perform a step s).action = Performable.timing a

theorem NativeAction.timing_perform (a : NativeAction) (step : Step) (c : Coupling) :
    (a.perform step c).action.timing = a.timing := by
  unfold NativeAction.perform
  split
  · rfl
  · split <;> rfl

theorem ScriptedAction.timing_performReady (a : ScriptedAction) (hooks : Hooks) (step : Step)
    (c : Coupling) : (a.performReady hooks step c).action.timing = a.timing := by
  unfold ScriptedAction.performReady
  split
  · rfl
  · split <;> rfl

theorem ScriptedAction.timing_perform (a : ScriptedAction) (step : Step) (c : Coupling) :
    (a.perform step c).action.timing = a.timing := by
  simp only [ScriptedAction.perform]
  split
  · exact timing_performReady _ _ _ _
  · rfl
  · rfl

instance : SteadyTiming Action where
  timing_perform a step c := by
    cases a with
    | scaleByDt => rfl
    | scaleByArea => rfl
    | native b => exact b.timing_perform step c
    | scripted b => exact b.timing_perform step c

namespace Registry

variable {α ω : Type} [Performable α ω]

/-- A run of an action: the place of the action, and the action and the state that it finds. -/
structure Run (α ω : Type) where
  place : Nat
  action : α
  state : ω

namespace Run

variable (t : Timing) (step : Step) (run : Run α ω)

/-- The state that the action is given, in which the log tells that it is run. -/
def given : ω := Performable.emit (α := α) run.state (performingRecord run.action t step)

def own : Performed α ω := Performable.perform run.action step (run.given t step)

def complaint : List LogRecord :=
  match (run.own t step).answer with
  | .error (.refused e) => [failedRecord (run.own t step).action e]
  | _ => []

def left : ω := (run.complaint t step).foldl (Performable.emit (α := α)) (run.own t step).state

theorem performOne_eq : performOne t step run.action run.state =
    ⟨(run.own t step).answer, (run.own t step).action, run.left t step⟩ := by
  unfold left complaint performOne
  change (match (run.own t step).answer with
    | .error (.refused e) => { run.own t step with
        state := Performable.emit (α := α) (run.own t step).state
          (failedRecord (run.own t step).action e) }
    | _ => run.own t step) = _
  rcases run.own t step with ⟨⟨e | fault⟩ | ⟨⟨⟩⟩, action, state⟩ <;> rfl

end Run

def places (t : Timing) (actions : List α) : List Nat :=
  positionsOf (fun a => Performable.timing a == t) actions

def only (r : Registry α) (t : Timing) : Registry α :=
  ⟨r.actions.filter fun a => Performable.timing a == t⟩

def due (t : Timing) (actions : List α) : List (α × Nat) :=
  actions.zipIdx.filter fun p => Performable.timing p.1 == t

/-- The runs of placed actions one after the other, up to the first that fails. -/
def runs (t : Timing) (step : Step) : List (α × Nat) → ω → List (Run α ω)
  | [], _ => []
  | (a, place) :: rest, s =>
    let run : Run α ω := ⟨place, a, s⟩
    match (run.own t step).answer with
    | .ok () => run :: runs t step rest (run.left t step)
    | .error _ => [run]

def lastAnswer (t : Timing) (step : Step) (rs : List (Run α ω)) :
    Except (Failure ActionError) Unit :=
  match rs.getLast? with
  | none => .ok ()
  | some run => (run.own t step).answer

def lastState (t : Timing) (step : Step) (s : ω) (rs : List (Run α ω)) : ω :=
  match rs.getLast? with
  | none => s
  | some run => run.left t step

/-- What a performance gives and leaves, in terms of the runs it consists of. -/
structure Dispatched (t : Timing) (step : Step) (actions : List α) (s : ω) (rs : List (Run α ω))
    (done : Performed (List α) ω) : Prop where
  /-- The places of the timing are gone through in order, each of them at most once. -/
  in_order : rs.map (·.place) <+: places t actions
  found : ∀ run ∈ rs, actions[run.place]? = some run.action
  /-- A run finds the state that the one before it left; the last one leaves the final state. -/
  threaded : rs.map (·.state) ++ [done.state] = s :: rs.map (·.left t step)
  /-- Only the last run can fail. -/
  passed : ∀ run ∈ rs.dropLast, (run.own t step).answer = .ok ()
  answered : done.answer = lastAnswer t step rs
  complete : done.answer = .ok () → rs.map (·.place) = places t actions
  ran : ∀ run ∈ rs, done.action[run.place]? = some (run.own t step).action
  kept : ∀ i, i ∉ rs.map (·.place) → done.action[i]? = actions[i]?
  same_size : done.action.length = actions.length

section Runs

variable {t : Timing} {step : Step} {s : ω} {run : Run α ω} {rs : List (Run α ω)}

theorem lastAnswer_cons (h : (run.own t step).answer = .ok ()) (rs : List (Run α ω)) :
    lastAnswer t step (run :: rs) = lastAnswer t step rs := by
  cases rs using List.reverseRecOn with
  | nil => exact h
  | append_singleton rs last => simp [lastAnswer, List.getLast?_cons]

theorem lastState_cons (s : ω) (run : Run α ω) (rs : List (Run α ω)) :
    lastState t step s (run :: rs) = lastState t step (run.left t step) rs := by
  cases rs using List.reverseRecOn with
  | nil => rfl
  | append_singleton rs last => simp [lastState, List.getLast?_cons]

theorem runs_append (ps qs : List (α × Nat)) (s : ω) :
    runs t step (ps ++ qs) s =
      match lastAnswer t step (runs t step ps s) with
      | .ok () => runs t step ps s ++ runs t step qs (lastState t step s (runs t step ps s))
      | .error _ => runs t step ps s := by
  induction ps generalizing s with
  | nil => rfl
  | cons p ps ih =>
    obtain ⟨a, place⟩ := p
    rw [List.cons_append, runs, runs]
    cases h : ((⟨place, a, s⟩ : Run α ω).own t step).answer with
    | error e => simp [h, lastAnswer]
    | ok u =>
      simp only [ih, lastAnswer_cons h, lastState_cons]
      split <;> rfl

end Runs

theorem places_append_singleton (t : Timing) (actions : List α) (a : α) :
    places t (actions ++ [a]) =
      if Performable.timing a = t then places t actions ++ [actions.length]
      else places t actions := by
  unfold places
  rw [positionsOf_append_singleton]
  by_cases ha : Performable.timing a = t <;> simp [ha]

theorem due_append_singleton (t : Timing) (actions : List α) (a : α) :
    due t (actions ++ [a]) =
      if Performable.timing a = t then due t actions ++ [(a, actions.length)]
      else due t actions := by
  unfold due
  rw [List.zipIdx_append, List.filter_append]
  by_cases ha : Performable.timing a = t <;> simp [ha]

theorem performAll_append (t : Timing) (step : Step) (first second : List α) (s : ω) :
    performAll t step (first ++ second) s =
      match (performAll t step first s).answer with
      | .ok () =>
        let others := performAll t step second (performAll t step first s).state
        ⟨others.answer, (performAll t step first s).action ++ others.action, others.state⟩
      | .error e =>
        ⟨.error e, (performAll t step first s).action ++ second,
          (performAll t step first s).state⟩ := by
  induction first generalizing s with
  | nil => rfl
  | cons a rest ih =>
    rw [List.cons_append, performAll, performAll]
    by_cases ha : Performable.timing a = t
    · rw [if_pos ha, if_pos ha]
      cases h : (performOne t step a s).answer with
      | error e => simp [h]
      | ok u =>
        simp only [h, ih]
        split <;> rfl
    · rw [if_neg ha, if_neg ha, ih]
      dsimp only
      split <;> rfl

theorem performAll_singleton (t : Timing) (step : Step) (a : α) (place : Nat) (s : ω) :
    performAll t step [a] s =
      if Performable.timing a = t then
        let run : Run α ω := ⟨place, a, s⟩
        ⟨(run.own t step).answer, [(run.own t step).action], run.left t step⟩
      else ⟨.ok (), [a], s⟩ := by
  rw [performAll, (⟨place, a, s⟩ : Run α ω).performOne_eq t step]
  split
  · dsimp only
    cases ((⟨place, a, s⟩ : Run α ω).own t step).answer <;> rfl
  · rfl

namespace Dispatched

variable {t : Timing} {step : Step} {actions : List α} {s : ω} {rs : List (Run α ω)}
  {done : Performed (List α) ω}

theorem state_eq (h : Dispatched t step actions s rs done) :
    done.state = lastState t step s rs := by
  have hlast := congrArg List.getLast? h.threaded
  simp only [List.getLast?_append, List.getLast?_cons, List.getLast?_map] at hlast
  unfold lastState
  cases hrs : rs.getLast? <;> rw [hrs] at hlast <;> exact Option.some.inj hlast

/-- There is at most one complaint, of the last run. -/
theorem length_complaints (h : Dispatched t step actions s rs done) :
    (rs.flatMap (Run.complaint t step)).length =
      (match done.answer with
        | .error (.refused _) => 1
        | _ => 0) := by
  have hsilent : ∀ run : Run α ω, (run.own t step).answer = .ok () → run.complaint t step = [] := by
    intro run hrun
    simp only [Run.complaint, hrun]
  have hpassed := h.passed
  rw [h.answered]
  cases rs using List.reverseRecOn with
  | nil => rfl
  | append_singleton rs last =>
    rw [List.dropLast_concat] at hpassed
    have hinit : rs.flatMap (Run.complaint t step) = [] :=
      List.flatMap_eq_nil_iff.mpr fun run hrun => hsilent run (hpassed run hrun)
    rw [List.flatMap_append, hinit, List.flatMap_singleton]
    simp only [lastAnswer, List.getLast?_concat, Run.complaint]
    split <;> rfl

theorem passed_of_ok (h : Dispatched t step actions s rs done) (ok : done.answer = .ok ()) :
    ∀ run ∈ rs, (run.own t step).answer = .ok () := by
  rw [h.answered] at ok
  have hpassed := h.passed
  cases rs using List.reverseRecOn with
  | nil => exact nofun
  | append_singleton rs last =>
    rw [List.dropLast_concat] at hpassed
    rw [List.forall_mem_append, List.forall_mem_singleton]
    exact ⟨hpassed, by simpa [lastAnswer] using ok⟩

theorem extend (h : Dispatched t step actions s rs done) {a : α}
    (skipped : Performable.timing a = t → done.answer ≠ .ok ()) :
    Dispatched t step (actions ++ [a]) s rs ⟨done.answer, done.action ++ [a], done.state⟩ := by
  have hplace : ∀ run ∈ rs, run.place < actions.length := fun run hrun =>
    (List.getElem?_eq_some_iff.mp (h.found run hrun)).1
  refine ⟨?_, ?_, h.threaded, h.passed, h.answered, ?_, ?_, ?_, ?_⟩
  · rw [places_append_singleton]
    split
    · exact h.in_order.trans (List.prefix_append _ _)
    · exact h.in_order
  · intro run hrun
    rw [List.getElem?_append_left (hplace run hrun)]
    exact h.found run hrun
  · intro hok
    rw [places_append_singleton, if_neg fun ha => skipped ha hok]
    exact h.complete hok
  · intro run hrun
    rw [List.getElem?_append_left (h.same_size ▸ hplace run hrun)]
    exact h.ran run hrun
  · intro i hi
    rw [List.getElem?_append, List.getElem?_append, h.same_size, h.kept i hi]
  · simp [h.same_size]

theorem concat (h : Dispatched t step actions s rs done) {a : α} (ok : done.answer = .ok ())
    (ha : Performable.timing a = t) :
    let run : Run α ω := ⟨actions.length, a, done.state⟩
    Dispatched t step (actions ++ [a]) s (rs ++ [run])
      ⟨(run.own t step).answer, done.action ++ [(run.own t step).action], run.left t step⟩ := by
  intro run
  have hplace : ∀ r ∈ rs, r.place < actions.length := fun r hr =>
    (List.getElem?_eq_some_iff.mp (h.found r hr)).1
  have hplaces : (rs ++ [run]).map (·.place) = places t (actions ++ [a]) := by
    rw [places_append_singleton, if_pos ha, List.map_append, h.complete ok]
    rfl
  refine ⟨hplaces ▸ List.prefix_rfl, ?_, ?_, ?_, ?_, fun _ => hplaces, ?_, ?_, ?_⟩
  · intro r hr
    rcases List.mem_append.mp hr with hr | hr
    · rw [List.getElem?_append_left (hplace r hr)]
      exact h.found r hr
    · rw [List.mem_singleton.mp hr]
      simp [run]
  · rw [List.map_append, List.map_append, ← List.cons_append, ← h.threaded]
    rfl
  · rw [List.dropLast_concat]
    exact h.passed_of_ok ok
  · simp [lastAnswer]
  · intro r hr
    rcases List.mem_append.mp hr with hr | hr
    · rw [List.getElem?_append_left (h.same_size ▸ hplace r hr)]
      exact h.ran r hr
    · rw [List.mem_singleton.mp hr]
      simp [run, h.same_size]
  · intro i hi
    rw [List.map_append, List.mem_append, not_or] at hi
    have hlast : i ≠ actions.length := fun e => hi.2 (by simp [run, e])
    rcases Nat.lt_or_gt_of_ne hlast with hlt | hgt
    · rw [List.getElem?_append_left (h.same_size ▸ hlt), List.getElem?_append_left hlt]
      exact h.kept i hi.1
    · rw [List.getElem?_eq_none (by simp [h.same_size]; omega),
        List.getElem?_eq_none (by simp; omega)]
  · simp [h.same_size]

end Dispatched

/-- A performance consists of the runs of the actions of its timing. The induction is on the last
action, which is run only if no run before it has failed. -/
theorem dispatched_performAll (t : Timing) (step : Step) (actions : List α) (s : ω) :
    Dispatched t step actions s (runs t step (due t actions) s)
      (performAll t step actions s) := by
  induction actions using List.reverseRecOn with
  | nil => exact ⟨List.prefix_rfl, nofun, rfl, nofun, rfl, fun _ => rfl, nofun, fun _ _ => rfl, rfl⟩
  | append_singleton actions a ih =>
    rw [performAll_append, due_append_singleton]
    cases hdone : (performAll t step actions s).answer with
    | error e =>
      have hskip := ih.extend (a := a) fun _ => by rw [hdone]; exact nofun
      rw [hdone] at hskip
      split
      · rwa [runs_append, ← ih.answered, hdone]
      · exact hskip
    | ok u =>
      dsimp only
      rw [performAll_singleton t step a actions.length]
      by_cases ha : Performable.timing a = t
      · rw [if_pos ha, if_pos ha, runs_append, ← ih.answered, hdone, ← ih.state_eq]
        have hrun := ih.concat hdone ha
        dsimp only at hrun ⊢
        rw [runs, runs]
        split <;> exact hrun
      · rw [if_neg ha, if_neg ha]
        have hskip := ih.extend fun h => absurd h ha
        rwa [hdone] at hskip

/-- One registry and then, only if no action of it failed, another. -/
def performBoth (first second : Registry α) (t : Timing) (step : Step) (s : ω) :
    Performed (Registry α) ω :=
  let one := first.perform t step s
  match one.answer with
  | .ok () =>
    let two := second.perform t step one.state
    ⟨two.answer, ⟨one.action.actions ++ two.action.actions⟩, two.state⟩
  | .error e => ⟨.error e, ⟨one.action.actions ++ second.actions⟩, one.state⟩

theorem perform_append (first second : Registry α) (t : Timing) (step : Step) (s : ω) :
    (⟨first.actions ++ second.actions⟩ : Registry α).perform t step s =
      performBoth first second t step s := by
  simp only [performBoth, perform, performAll_append]
  cases (performAll t step first.actions s).answer <;> rfl

theorem perform_only [SteadyTiming α] (r : Registry α) (t : Timing) (step : Step) (s : ω) :
    (r.only t).perform t step s =
      ⟨(r.perform t step s).answer, (r.perform t step s).action.only t,
        (r.perform t step s).state⟩ := by
  suffices h : ∀ actions : List α,
      performAll t step (actions.filter fun a => Performable.timing a == t) s =
        ⟨(performAll t step actions s).answer,
          (performAll t step actions s).action.filter fun a => Performable.timing a == t,
          (performAll t step actions s).state⟩ by
    simp only [perform, only, h]
  intro actions
  induction actions generalizing s with
  | nil => rfl
  | cons a rest ih =>
    by_cases ha : Performable.timing a = t
    · have hleft : Performable.timing (performOne t step a s).action = t := by
        rw [(⟨0, a, s⟩ : Run α ω).performOne_eq t step]
        exact (SteadyTiming.timing_perform a step _).trans ha
      simp only [List.filter_cons, ha, beq_self_eq_true, if_true, performAll]
      cases h : (performOne t step a s).answer <;> simp [hleft, ih]
    · simp only [List.filter_cons, beq_iff_eq, ha, if_false, performAll, ih]

/-- `log` reads a log to whose end lines are emitted, and `own` tells what the actions of some runs
write to its end themselves. -/
structure Logged (t : Timing) (step : Step) (log : ω → List LogRecord)
    (own : Run α ω → List LogRecord) (rs : List (Run α ω)) : Prop where
  emitted : ∀ s record, log (Performable.emit (α := α) s record) = log s ++ [record]
  written : ∀ run ∈ rs, log (run.own t step).state = log (run.given t step) ++ own run

def Run.lines (t : Timing) (step : Step) (own : Run α ω → List LogRecord) (run : Run α ω) :
    List LogRecord :=
  performingRecord run.action t step :: (own run ++ run.complaint t step)

namespace Logged

variable {t : Timing} {step : Step} {s final : ω} {run : Run α ω} {rs : List (Run α ω)}
  {log : ω → List LogRecord} {own : Run α ω → List LogRecord}

theorem log_foldl (h : Logged t step log own rs) (records : List LogRecord) (s : ω) :
    log (records.foldl (Performable.emit (α := α)) s) = log s ++ records := by
  induction records generalizing s with
  | nil => simp
  | cons record records ih => rw [List.foldl_cons, ih, h.emitted]; simp

theorem log_left (h : Logged t step log own rs) (hrun : run ∈ rs) :
    log (run.left t step) = log run.state ++ run.lines t step own := by
  rw [Run.left, h.log_foldl, h.written run hrun, Run.given, h.emitted]
  simp [Run.lines]

/-- Lines come in the order of the runs, and between the runs there are none. -/
theorem log_threaded (h : Logged t step log own rs)
    (threaded : rs.map (·.state) ++ [final] = s :: rs.map (·.left t step)) :
    log final = log s ++ rs.flatMap (Run.lines t step own) := by
  induction rs generalizing s with
  | nil =>
    cases threaded
    simp
  | cons run rs ih =>
    rw [List.map_cons, List.map_cons, List.cons_append, List.cons.injEq] at threaded
    obtain ⟨hstate, threaded⟩ := threaded
    have hrest : Logged t step log own rs := ⟨h.emitted, fun r hr => h.written r (.tail _ hr)⟩
    rw [ih hrest threaded, h.log_left List.mem_cons_self, hstate]
    simp

end Logged

/-! ## Sessions -/

/-- What can happen to a registry and the state around it. -/
inductive Event (α ω : Type) where
  | register (a : α)
  | perform (t : Timing) (step : Step)
  /-- A change of the state that leaves the registry alone. -/
  | meanwhile (change : ω → ω)

/-- The registry and the state after an event; a performance may have failed. -/
def after (p : Registry α × ω) : Event α ω → Registry α × ω
  | .register a => p.1.register a p.2
  | .perform t step => ((p.1.perform t step p.2).action, (p.1.perform t step p.2).state)
  | .meanwhile change => (p.1, change p.2)

/-- The registry and the state after a session, which begins with an empty registry. -/
def session (events : List (Event α ω)) (start : ω) : Registry α × ω :=
  events.foldl after (empty, start)

def registered (events : List (Event α ω)) : List α :=
  events.filterMap fun
    | .register a => some a
    | _ => none

/-- What becomes of an action by running it any number of times. -/
def Descends : α → α → Prop :=
  Relation.ReflTransGen fun a b => ∃ step s, b = (Performable.perform a step s).action

theorem Descends.timing_eq [SteadyTiming α] {a b : α} (h : Descends a b) :
    Performable.timing b = Performable.timing a := by
  induction h with
  | refl => rfl
  | tail _ hstep ih =>
    obtain ⟨step, s, rfl⟩ := hstep
    rw [SteadyTiming.timing_perform, ih]

theorem places_of_descends [SteadyTiming α] (t : Timing) {as bs : List α}
    (h : List.Forall₂ Descends as bs) : places t bs = places t as := by
  have htimings : bs.map Performable.timing = as.map Performable.timing := by
    induction h with
    | nil => rfl
    | cons hab _ ih => rw [List.map_cons, List.map_cons, hab.timing_eq, ih]
  have hplaces : ∀ actions : List α,
      places t actions = positionsOf (· == t) (actions.map Performable.timing) :=
    fun actions => (positionsOf_map (· == t) Performable.timing actions).symm
  rw [hplaces, hplaces, htimings]

/-- Performing leaves every action in its place, as its run has left it or as it was. -/
theorem descends_performAll (t : Timing) (step : Step) {as bs : List α}
    (h : List.Forall₂ Descends as bs) (s : ω) :
    List.Forall₂ Descends as (performAll t step bs s).action := by
  induction h generalizing s with
  | nil => exact .nil
  | @cons a b as bs hab hrest ih =>
    rw [performAll, (⟨0, b, s⟩ : Run α ω).performOne_eq t step]
    have hrun : Descends a ((⟨0, b, s⟩ : Run α ω).own t step).action := hab.tail ⟨_, _, rfl⟩
    split
    · dsimp only
      split
      · exact .cons hrun (ih _)
      · exact .cons hrun hrest
    · exact .cons hab (ih s)

theorem descends_session (events : List (Event α ω)) (start : ω) :
    List.Forall₂ Descends (registered events) (session events start).1.actions := by
  induction events using List.reverseRecOn with
  | nil => exact .nil
  | append_singleton events e ih =>
    unfold session registered at ih ⊢
    rw [List.foldl_append, List.foldl_cons, List.foldl_nil, List.filterMap_append]
    cases e with
    | register a => exact List.rel_append ih (.cons .refl .nil)
    | perform t step =>
      rw [List.filterMap_cons_none rfl, List.filterMap_nil, List.append_nil]
      exact descends_performAll t step ih _
    | meanwhile change =>
      rw [List.filterMap_cons_none rfl, List.filterMap_nil, List.append_nil]
      exact ih

/-- At every point of every session the registry holds the registered actions in order, each as its
own runs have left it. Performing a timing then runs the actions of that timing in order up to the
first that fails, tells the log of every run and of a failure, and is the same as performing these
actions alone, or one part of the registry and then the other. -/
theorem dispatched_in_session [SteadyTiming α] (events : List (Event α ω)) (start : ω)
    (t : Timing) (step : Step) :
    let r := (session events start).1
    let s := (session events start).2
    let done := r.perform t step s
    let rs := runs t step (due t r.actions) s
    List.Forall₂ Descends (registered events) r.actions ∧
      places t r.actions = places t (registered events) ∧
      Dispatched t step r.actions s rs ⟨done.answer, done.action.actions, done.state⟩ ∧
      (∀ log own, Logged t step log own rs →
        log done.state = log s ++ rs.flatMap (Run.lines t step own)) ∧
      (rs.flatMap (Run.complaint t step)).length =
        (match done.answer with
          | .error (.refused _) => 1
          | _ => 0) ∧
      (r.only t).perform t step s = ⟨done.answer, done.action.only t, done.state⟩ ∧
      ∀ first second : Registry α, first.actions ++ second.actions = r.actions →
        done = performBoth first second t step s := by
  intro r s done rs
  have hdescends : List.Forall₂ Descends (registered events) r.actions :=
    descends_session events start
  have hdispatched : Dispatched t step r.actions s rs (performAll t step r.actions s) :=
    dispatched_performAll t step r.actions s
  refine ⟨hdescends, places_of_descends t hdescends, hdispatched, ?_, ?_, r.perform_only t step s,
    ?_⟩
  · intro log own h
    exact h.log_threaded hdispatched.threaded
  · exact hdispatched.length_complaints
  · intro first second h
    rw [← perform_append, h]

/-- A native action without fields that only notes its run, and then fails if it has a message. -/
def noting (name : String) (timing : Timing) (message : Option String) : Action :=
  .native ⟨name, timing, ⟨0⟩, none, none, 0, fun call c =>
    ⟨match message with
      | some message => .error (.refused (.native call.action message))
      | none => .ok (), [], c.note (.ran call.action call.number 0 none none)⟩⟩

def failingSession : List (Event Action Coupling) :=
  [.register (noting "a" .regularPost none), .register (noting "other" .regularPrior none),
    .perform .regularPost default, .register (noting "b" .regularPost (some "boom")),
    .meanwhile fun c => (c.share default).2, .register (noting "c" .regularPost none)]

theorem dispatched_in_session_failingSession :
    let start : Coupling := ⟨[⟨default, .free⟩], [], [], .start default, ⟨0, 0, [], []⟩⟩
    let r := (session failingSession start).1
    let s := (session failingSession start).2
    let rs := runs .regularPost default (due .regularPost r.actions) s
    let done := r.perform .regularPost default s
    places .regularPost (registered failingSession) = [0, 2, 3] ∧
      rs.map (·.place) = [0, 2] ∧
      done.answer = .error (.refused (.native "b" "boom")) ∧
      Logged .regularPost default Coupling.log (fun _ => []) rs ∧
      done.state.log = s.log ++ rs.flatMap (Run.lines .regularPost default fun _ => []) := by
  intro start r s rs done
  have logged : Logged .regularPost default Coupling.log (fun _ => []) rs := by
    refine ⟨fun _ _ => rfl, ?_⟩
    have hrs : rs = [⟨0, _, s⟩, ⟨2, _, _⟩] := rfl
    rw [hrs, List.forall_mem_cons, List.forall_mem_singleton, List.append_nil, List.append_nil]
    exact ⟨rfl, rfl⟩
  obtain ⟨_, _, _, hlog, _⟩ := dispatched_in_session failingSession start .regularPost default
  have told := hlog Coupling.log (fun _ => []) logged
  refine ⟨rfl, ?_, ?_, logged, ?_⟩
  · rfl
  · rfl
  · with_reducible exact told

end Registry

end FieldMesh

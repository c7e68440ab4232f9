import FieldMesh.Action.Basic

/-! # Registries

A registry keeps actions in the order in which they were registered. Performing a timing runs
the actions of that timing in this order and stops at the first one that fails; what happened
before stays. Every action that is run is told to the log, and so is a failure.
-/

namespace FieldMesh

/-- Actions in the order of registration. -/
structure Registry (α : Type) where
  actions : List α
deriving Inhabited

namespace Registry

variable {α ω : Type} [Performable α ω]

def empty : Registry α := ⟨[]⟩

def size (r : Registry α) : Nat := r.actions.length

def countFor (r : Registry α) (t : Timing) : Nat :=
  r.actions.countP fun a => Performable.timing a == t

def registeredRecord (a : α) : LogRecord :=
  ⟨.debug, s!"registered action `{Performable.name a}` at timing {Performable.timing a}"⟩

def performingRecord (a : α) (t : Timing) (step : Step) : LogRecord :=
  let time := NumberLayout.plain.write step.time
  ⟨.debug, s!"performing action `{Performable.name a}` ({t}) at t = {time}"⟩

def failedRecord (a : α) (e : ActionError) : LogRecord :=
  ⟨.error, s!"action `{Performable.name a}` failed: {e.message}"⟩

def register (r : Registry α) (a : α) (s : ω) : Registry α × ω :=
  (⟨r.actions ++ [a]⟩, Performable.emit (α := α) s (registeredRecord a))

/-- Runs one action and tells the log about it. -/
def performOne (t : Timing) (step : Step) (a : α) (s : ω) : Performed α ω :=
  let done := Performable.perform a step (Performable.emit (α := α) s (performingRecord a t step))
  match done.answer with
  | .error (.refused e) =>
    { done with state := Performable.emit (α := α) done.state (failedRecord done.action e) }
  | _ => done

/-- Runs the actions of a timing until one fails. -/
def performAll (t : Timing) (step : Step) : List α → ω → Performed (List α) ω
  | [], s => ⟨.ok (), [], s⟩
  | a :: rest, s =>
    if Performable.timing a = t then
      let done := performOne t step a s
      match done.answer with
      | .ok () =>
        let others := performAll t step rest done.state
        ⟨others.answer, done.action :: others.action, others.state⟩
      | .error e => ⟨.error e, done.action :: rest, done.state⟩
    else
      let others := performAll t step rest s
      ⟨others.answer, a :: others.action, others.state⟩

def perform (r : Registry α) (t : Timing) (step : Step) (s : ω) : Performed (Registry α) ω :=
  let done := performAll t step r.actions s
  ⟨done.answer, ⟨done.action⟩, done.state⟩

def text (r : Registry α) : String :=
  let entries := r.actions.map fun a =>
    s!"({Quoted.quote (Performable.name a)}, {(Performable.timing a).tag})"
  "[" ++ ", ".intercalate entries ++ "]"

end Registry

end FieldMesh

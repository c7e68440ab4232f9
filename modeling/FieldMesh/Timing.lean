import FieldMesh.Text.Named

/-! # Timings and steps

A timing is a moment of the coupling loop at which actions run. A step is what the loop tells
an action about the time step it runs in.
-/

namespace FieldMesh

/-- When an action runs. -/
inductive Timing where
  | regularPrior
  | regularPost
  | onExchangePrior
  | onExchangePost
  | onTimestepCompletePost
deriving DecidableEq, Inhabited, Repr

namespace Timing

/-- The name of a timing in configurations. -/
def text : Timing → String
  | regularPrior => "regular-prior"
  | regularPost => "regular-post"
  | onExchangePrior => "on-exchange-prior"
  | onExchangePost => "on-exchange-post"
  | onTimestepCompletePost => "on-timestep-complete-post"

/-- The name of a timing in listings. -/
def tag : Timing → String
  | regularPrior => "RegularPrior"
  | regularPost => "RegularPost"
  | onExchangePrior => "OnExchangePrior"
  | onExchangePost => "OnExchangePost"
  | onTimestepCompletePost => "OnTimestepCompletePost"

instance : Named Timing where
  all := [regularPrior, regularPost, onExchangePrior, onExchangePost, onTimestepCompletePost]
  name := text

instance : ToString Timing := ⟨text⟩

/-- The timings in the order in which the loop reaches them. -/
def schedule : List Timing :=
  [regularPrior, onExchangePrior, onExchangePost, onTimestepCompletePost, regularPost]

theorem ofName?_text (t : Timing) : Named.ofName? t.text = some t := by cases t <;> decide

end Timing

structure Step where
  /-- The time reached. -/
  time : Float
  /-- The length of the time step that was just computed. -/
  length : Float
  /-- The part of the coupling window that has been computed. -/
  computed : Float
  /-- The length of the coupling window. -/
  window : Float
deriving Inhabited

end FieldMesh

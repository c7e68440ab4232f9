import FieldMesh.Mesh.Edit

/-! # Runs of edits

A run performs edits one after the other, whether or not each of them succeeds. What one edit
preserves, a run preserves; which edits a run consists of is a property of every call of it
and the mesh that the call finds.
-/

namespace FieldMesh

def Edited.fault? {α : Type} (r : Edited α) : Option Fault :=
  match r.answer with
  | .error (.fault c) => some c
  | _ => none

/-- For every field, the number of vertices times the number of components is a length. -/
def Mesh.Fits (m : Mesh) : Prop :=
  ∀ f ∈ m.fields, m.vertices.length * f.components < Length.limit

instance (m : Mesh) : Decidable m.Fits :=
  inferInstanceAs (Decidable (∀ f ∈ m.fields, m.vertices.length * f.components < Length.limit))

namespace Edit

/-- Whether every field stays where it was declared. -/
def keepsFields : Edit → Bool
  | putField .. => false
  | _ => true

/-- A property of every call of a run and the mesh that the call finds. -/
def Along (P : Mesh → Edit → Prop) (m : Mesh) : List Edit → Prop
  | [] => True
  | e :: es => P m e ∧ Along P (e.apply m).mesh es

instance Along.decidable (P : Mesh → Edit → Prop) [∀ m e, Decidable (P m e)] (m : Mesh) :
    (es : List Edit) → Decidable (Along P m es)
  | [] => isTrue trivial
  | e :: es =>
    haveI := Along.decidable P (e.apply m).mesh es
    inferInstanceAs (Decidable (P m e ∧ Along P (e.apply m).mesh es))

def Succeeds (m : Mesh) (e : Edit) : Prop := (e.apply m).answer = .ok ()

/-- A call that stops at no offset beyond the range of lengths. -/
def InRange (m : Mesh) (e : Edit) : Prop := (e.apply m).fault? ≠ some .overflow

instance (m : Mesh) (e : Edit) : Decidable (InRange m e) := inferInstanceAs (Decidable (_ ≠ _))

/-- A call that replaces no field, whose lengths fit before and after, and for which there is
enough memory. -/
def Fitting (m : Mesh) (e : Edit) : Prop :=
  e.keepsFields = true ∧ m.Fits ∧ (e.apply m).mesh.Fits ∧ (e.apply m).fault? ≠ some .capacity

instance (m : Mesh) (e : Edit) : Decidable (Fitting m e) :=
  inferInstanceAs (Decidable (_ ∧ _ ∧ _ ∧ _))

variable {P Q : Mesh → Edit → Prop} {I : Mesh → Prop} {m : Mesh} {es : List Edit}

/-- What every admitted call preserves holds at the end of a run. -/
theorem run_preserves (step : ∀ m e, I m → P m e → I (e.apply m).mesh) (start : I m)
    (calls : Along P m es) : I (run m es) := by
  induction es generalizing m with
  | nil => exact start
  | cons e es ih => exact ih (step m e start calls.1) calls.2

/-- What holds of every admitted call at an invariant mesh holds along a run. -/
theorem Along.mono_of_invariant (step : ∀ m e, I m → P m e → I (e.apply m).mesh)
    (imp : ∀ m e, I m → P m e → Q m e) (start : I m) (calls : Along P m es) : Along Q m es := by
  induction es generalizing m with
  | nil => trivial
  | cons e es ih =>
    exact ⟨imp m e start calls.1, ih (step m e start calls.1) calls.2⟩

theorem along_append (first second : List Edit) :
    Along P m (first ++ second) ↔ Along P m first ∧ Along P (run m first) second := by
  induction first generalizing m with
  | nil => simp [Along]
  | cons e es ih => simp only [List.cons_append, Along, ih, run_cons, and_assoc]

end Edit

/-- What a run makes of an empty mesh without an offset beyond the range of lengths. Fields may be
replaced on the way, by whatever writes to them. -/
def Mesh.Reachable (m : Mesh) : Prop :=
  ∃ name dimensions start es, Mesh.new? name dimensions = .ok start ∧
    Edit.Along Edit.InRange start es ∧ m = Edit.run start es

end FieldMesh

import FieldMesh.Action.Kinds
import FieldMesh.Proofs.Areas
import FieldMesh.Proofs.FieldNames
import FieldMesh.Proofs.Refusals
import FieldMesh.Proofs.Writes

/-! # Scalings performed

A scaling looks at its mesh first, then at its source, its target and at both together. It fails for
the first thing that stands against it, and then all that actions share is as it was; otherwise it
scales its target from the first value to the last, and of the mesh nothing else changes.
-/

namespace FieldMesh

namespace Coupling

variable {c : Coupling} {k : MeshKey} {x : ActionError}

end Coupling

namespace Mesh

variable {m : Mesh} {d source target : FieldId} {f : Field}

/-- What keeps a field from being used by an action, and how it is reported. -/
inductive Lacks (m : Mesh) (d : FieldId) : MeshError → Prop
  | unknown (missing : m.fields.length ≤ d.raw) : Lacks m d (.unknownField d)
  | length {f : Field} (stands : m.fields[d.raw]? = some f)
      (wrong : f.values.length ≠ m.vertices.length * f.components) :
      Lacks m d (.fieldLength f.name (m.vertices.length * f.components) f.values.length)

theorem checkCoverage_eq_error_iff (fits : m.Fits) {e : Failure MeshError} :
    m.checkCoverage d = .error e ↔ ∃ x, e = .refused x ∧ m.Lacks d x := by
  unfold checkCoverage
  constructor
  · intro h
    split at h
    · rename_i x hx
      obtain ⟨missing, rfl⟩ := field_eq_error_iff.mp hx
      exact ⟨_, (Except.error.inj h).symm, .unknown missing⟩
    · rename_i f hf
      rw [field_eq_ok_iff] at hf
      rw [Length.mul?_of_lt (fits f (List.mem_of_getElem? hf))] at h
      dsimp only at h
      split at h
      · exact nomatch h
      · exact ⟨_, (Except.error.inj h).symm, .length hf ‹_›⟩
  · rintro ⟨x, rfl, hx⟩
    cases hx with
    | unknown missing => rw [field_eq_error_iff.mpr ⟨missing, rfl⟩]
    | length stands wrong =>
      rw [field_eq_ok_iff.mpr stands]
      simp only [Length.mul?_of_lt (fits _ (List.mem_of_getElem? stands)), if_neg wrong]

/-- What stands against scaling one field by the step into another, and how it is reported. For
each cause those that are looked at before it do not apply. -/
inductive ForbidsDt (m : Mesh) (source target : FieldId) : ActionError → Prop
  | source {x : MeshError} (lacks : m.Lacks source x) : ForbidsDt m source target (.mesh x)
  | target {x : MeshError} (covered : m.Covered source) (lacks : m.Lacks target x) :
      ForbidsDt m source target (.mesh x)
  | aliased (covered : m.Covered source) (same : source = target) :
      ForbidsDt m source target (.mesh (.aliasedField source))
  | incompatible {s t : Field} (covered : m.Covered source ∧ m.Covered target)
      (apart : source ≠ target) (atSource : m.fields[source.raw]? = some s)
      (atTarget : m.fields[target.raw]? = some t) (differ : s.components ≠ t.components) :
      ForbidsDt m source target (.incompatible "scale-by-dt" (componentsDiffer s t))

theorem Covered.exists_field (h : m.Covered d) :
    ∃ f, m.fields[d.raw]? = some f ∧ f.values.length = m.vertices.length * f.components := by
  obtain ⟨f, hf, _, hlength⟩ := h
  exact ⟨f, field_eq_ok_iff.mp hf, hlength⟩

theorem Labelled.select_pair (h : m.Labelled) {s t : Field} (hs : m.Covered source)
    (ht : m.Covered target) (apart : source ≠ target) (atSource : m.fields[source.raw]? = some s)
    (atTarget : m.fields[target.raw]? = some t) :
    m.select (some source) (some target) =
      .ok ⟨some ⟨source.raw, s⟩, some ⟨target.raw, t⟩⟩ := by
  refine select_eq_ok_iff.mpr ⟨?_, ?_, ?_, ?_⟩
  · rintro d ⟨⟩
    exact hs
  · rintro d ⟨⟩
    exact ht
  · rintro d ⟨⟩ htarget
    exact apart (Option.some.inj htarget).symm
  · rw [Option.bind_some, Option.bind_some, h.carrier?_eq atSource, h.carrier?_eq atTarget]

theorem ForbidsDt.scaleByDt_eq (h : m.Labelled) (fits : m.Fits) {x : ActionError}
    (hx : m.ForbidsDt source target x) (scaling : DtScaling) (step : Step) :
    m.scaleByDt source target scaling step = .error (.refused x) := by
  cases hx with
  | source lacks =>
    have hs := (checkCoverage_eq_error_iff fits).mpr ⟨_, rfl, lacks⟩
    simp only [scaleByDt, select, Option.forM, hs]
    rfl
  | target covered lacks =>
    have hs := checkCoverage_eq_ok_iff.mpr covered
    have ht := (checkCoverage_eq_error_iff fits).mpr ⟨_, rfl, lacks⟩
    simp only [scaleByDt, select, Option.forM, hs, ht]
    rfl
  | aliased covered same =>
    have hs := checkCoverage_eq_ok_iff.mpr covered
    simp only [scaleByDt, select, Option.forM, ← same, hs]
    simp only [if_true]
    rfl
  | incompatible covered apart atSource atTarget differ =>
    simp only [scaleByDt, h.select_pair covered.1 covered.2 apart atSource atTarget,
      if_neg differ]

end Mesh

namespace AreaScaling

end AreaScaling

namespace Mesh

variable {m : Mesh} {target : FieldId} {f : Field}

/-- What stands against scaling a field by areas, and how it is reported. -/
inductive ForbidsArea (m : Mesh) (target : FieldId) : ActionError → Prop
  | target {x : MeshError} (lacks : m.Lacks target x) : ForbidsArea m target (.mesh x)

theorem ForbidsArea.scaleByArea_eq (fits : m.Fits) {x : ActionError} (hx : m.ForbidsArea target x)
    (s : AreaScaling) : m.scaleByArea target s = .error (.refused x) := by
  cases hx with
  | target lacks =>
    have ht := (checkCoverage_eq_error_iff fits).mpr ⟨_, rfl, lacks⟩
    simp only [scaleByArea, select, Option.forM, ht]
    rfl

end Mesh

namespace Mesh.Sound

variable {m : Mesh}

theorem labelled (h : m.Sound) : m.Labelled := ⟨h.field_id, h.nodup_fieldNames⟩

end Mesh.Sound

namespace Edit

variable {m : Mesh} {es : List Edit}

end Edit

namespace Coupling

variable {c : Coupling} {k : MeshKey} {m n : Mesh} {b : Borrow}

end Coupling

namespace Action

open Edit (Along Fitting run)

variable {name : String} {dimensions : Nat} {start : Mesh} {es : List Edit} {c : Coupling}
  {k : MeshKey} {b : Borrow}

end Action

end FieldMesh

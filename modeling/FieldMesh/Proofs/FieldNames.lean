import FieldMesh.Proofs.Requests
import Mathlib.Data.List.Infix

/-! # Names of fields

An action is configured with the names of fields and keeps their ids. In a mesh whose fields carry
their positions and have different names, an id stands for the same name for good: fields are only
ever added behind the others, under names that are new. Scaling the fields at two ids is then
scaling the fields of two names.
-/

namespace FieldMesh

namespace Mesh

variable {m n : Mesh} {d : FieldId} {name : String} {f : Field}

def fieldNames (m : Mesh) : List String := m.fields.map (·.name)

/-- Every field carries its position, and no two fields have one name. -/
structure Labelled (m : Mesh) : Prop where
  numbered : m.Numbered
  distinct : m.fieldNames.Nodup

/-- What has become of a mesh, as far as names are concerned: it is still labelled, and what was
the name of a position is so still. -/
def Relabels (m n : Mesh) : Prop := m.Labelled → n.Labelled ∧ m.fieldNames <+: n.fieldNames

theorem Relabels.refl (m : Mesh) : m.Relabels m := fun h => ⟨h, List.prefix_rfl⟩

theorem Relabels.trans {k : Mesh} (h₁ : m.Relabels n) (h₂ : n.Relabels k) : m.Relabels k := by
  intro h
  obtain ⟨hn, hmn⟩ := h₁ h
  obtain ⟨hk, hnk⟩ := h₂ hn
  exact ⟨hk, hmn.trans hnk⟩

theorem name_of_prefix {i : Nat} (h : m.fieldNames <+: n.fieldNames)
    (hi : m.fieldNames[i]? = some name) : n.fieldNames[i]? = some name := by
  obtain ⟨added, hadded⟩ := h
  rwa [← hadded, List.getElem?_append_left (List.getElem?_eq_some_iff.mp hi).1]

/-! ## Names along runs -/

@[simp] theorem fieldNames_setFieldValues (m : Mesh) (i : Nat) (xs : List Float) :
    (m.setFieldValues i xs).fieldNames = m.fieldNames :=
  m.map_setFieldValues i xs fun _ _ => rfl

theorem relabels_setFieldValues (m : Mesh) (i : Nat) (xs : List Float) :
    m.Relabels (m.setFieldValues i xs) := by
  intro h
  refine ⟨⟨h.numbered.of_ids (m.map_setFieldValues i xs fun _ _ => rfl), ?_⟩, ?_⟩
  · rw [fieldNames_setFieldValues]
    exact h.distinct
  · rw [fieldNames_setFieldValues]

theorem fieldNames_apply (m : Mesh) {e : Edit} (he : e.keepsFields = true) :
    (e.apply m).mesh.fieldNames = m.fieldNames ∨
      ∃ new, new ∉ m.fieldNames ∧ (e.apply m).mesh.fieldNames = m.fieldNames ++ [new] := by
  unfold fieldNames
  cases e with
  | createVertex cs =>
    rcases m.createVertex_cases cs with
      ⟨_, _, heq⟩ | ⟨c, _, ⟨_, heq⟩ | ⟨done, f, rest, _, hfs, _, _, heq⟩⟩
    · exact .inl (by simp [Edit.apply, heq])
    · exact .inl (by simp [Edit.apply, heq, withVertex, Function.comp_def])
    · exact .inl (by simp [Edit.apply, heq, hfs, Function.comp_def])
  | moveVertex v cs =>
    refine .inl ?_
    simp only [Edit.apply, moveVertex]
    split
    · rfl
    · split <;> rfl
  | removeVertex v =>
    rcases m.removeVertex_cases v with ⟨_, heq⟩ | ⟨slot, _, heq | ⟨done, f, rest, hfs, _, heq⟩⟩
    · exact .inl (by simp [Edit.apply, heq])
    · exact .inl (by simp [Edit.apply, heq, withoutVertex, refilterGroups, Function.comp_def])
    · exact .inl (by simp [Edit.apply, heq, hfs, Function.comp_def])
  | createEdge a b =>
    refine .inl ?_
    simp only [Edit.apply, createEdge]
    split <;> rfl
  | createTriangle a b c =>
    refine .inl ?_
    simp only [Edit.apply, createTriangle]
    split <;> rfl
  | createField new k =>
    simp only [Edit.apply, createField]
    split
    · exact .inl rfl
    · split
      · exact .inl rfl
      · rename_i hnew
        refine .inr ⟨new, fun hmem => hnew ?_, by simp [Field.declare]⟩
        obtain ⟨f, hf, rfl⟩ := List.mem_map.mp hmem
        exact List.any_eq_true.mpr ⟨f, hf, by simp⟩
  | allocate =>
    rcases m.allocate_cases with ⟨_, heq⟩ | ⟨done, f, rest, _, hfs, _, heq⟩
    · exact .inl (by simp [Edit.apply, heq, withRows, Field.sized, Function.comp_def])
    · exact .inl (by simp [Edit.apply, heq, hfs, Field.sized, Function.comp_def])
  | createGroup name vs =>
    refine .inl ?_
    simp only [Edit.apply, createGroup]
    split
    · rfl
    · split <;> rfl
  | setValues d xs =>
    refine .inl ?_
    simp only [Edit.apply, setValues]
    split
    · rfl
    · exact m.map_setFieldValues _ _ fun _ _ => rfl
  | setRow d slot xs =>
    refine .inl ?_
    simp only [Edit.apply, setRow]
    split
    · rfl
    · split
      · rfl
      · rfl
      · exact m.map_setFieldValues _ _ fun _ _ => rfl
  | putField d f => cases he

theorem relabels_apply (m : Mesh) {e : Edit} (he : e.keepsFields = true) :
    m.Relabels (e.apply m).mesh := by
  intro h
  have keeps : e.keepsIds = true := by
    cases e with
    | putField => exact nomatch he
    | _ => rfl
  have numbered : (e.apply m).mesh.Numbered := h.numbered.apply keeps
  rcases m.fieldNames_apply he with hnames | ⟨new, hnew, hnames⟩
  · exact ⟨⟨numbered, hnames ▸ h.distinct⟩, hnames ▸ List.prefix_rfl⟩
  · refine ⟨⟨numbered, ?_⟩, hnames ▸ List.prefix_append _ _⟩
    rw [hnames, List.nodup_append]
    exact ⟨h.distinct, List.nodup_singleton new, by
      rintro a ha b hb rfl
      exact hnew (List.mem_singleton.mp hb ▸ ha)⟩

theorem relabels_run (m : Mesh) {es : List Edit} (keeps : ∀ e ∈ es, e.keepsFields = true) :
    m.Relabels (Edit.run m es) := by
  induction es generalizing m with
  | nil => exact .refl m
  | cons e es ih =>
    rw [List.forall_mem_cons] at keeps
    exact (m.relabels_apply keeps.1).trans (ih _ keeps.2)

/-- What a run makes of an empty mesh without replacing a field. -/
def Built (m : Mesh) : Prop :=
  ∃ name dimensions start es, Mesh.new? name dimensions = .ok start ∧
    (∀ e ∈ es, e.keepsFields = true) ∧ m = Edit.run start es

theorem Built.labelled (h : m.Built) : m.Labelled := by
  obtain ⟨name, dimensions, start, es, created, keeps, rfl⟩ := h
  obtain ⟨_, rfl⟩ := Mesh.new_eq_ok_iff.mp created
  have empty : Labelled ⟨name, dimensions, [], ∅, 0, [], [], [], []⟩ :=
    ⟨fun _ _ => nofun, List.nodup_nil⟩
  exact (relabels_run _ keeps empty).1

theorem relabels_scaleByDt {source target : FieldId} {scaling : DtScaling} {step : Step}
    {records : List LogRecord} (h : m.scaleByDt source target scaling step = .ok (n, records)) :
    m.Relabels n := by
  unfold scaleByDt at h
  split at h
  · exact nomatch h
  · split at h
    · cases h
      exact m.relabels_setFieldValues _ _
    · exact nomatch h
  · cases h
    exact .refl m

theorem relabels_scaleByArea {target : FieldId} {scaling : AreaScaling}
    {records : List LogRecord} (h : m.scaleByArea target scaling = .ok (n, records)) :
    m.Relabels n := by
  unfold scaleByArea at h
  split at h
  · exact nomatch h
  · cases h
    exact m.relabels_setFieldValues _ _
  · cases h
    exact .refl m

/-! ## Looking names up -/

theorem fieldNamed_eq_error_iff {e : MeshError} :
    m.fieldNamed name = .error e ↔ name ∉ m.fieldNames ∧ e = .unknownFieldName m.name name := by
  unfold fieldNamed fieldNames
  split
  · rename_i f hf
    have hmem : name ∈ m.fields.map (·.name) :=
      List.mem_map.mpr ⟨f, List.mem_of_find?_eq_some hf, by simpa using List.find?_some hf⟩
    exact ⟨nofun, fun h => absurd hmem h.1⟩
  · rename_i hnone
    have hmem : name ∉ m.fields.map (·.name) := by simpa using hnone
    exact ⟨fun h => ⟨hmem, (Except.error.inj h).symm⟩, fun h => h.2 ▸ rfl⟩

theorem Numbered.name_of_fieldNamed (h : m.Numbered) (hd : m.fieldNamed name = .ok d) :
    m.fieldNames[d.raw]? = some name := by
  unfold fieldNamed at hd
  split at hd
  · rename_i f hf
    obtain ⟨i, hi⟩ := List.mem_iff_getElem?.mp (List.mem_of_find?_eq_some hf)
    rw [← Except.ok.inj hd, h i f hi, fieldNames, List.getElem?_map, hi]
    simpa using List.find?_some hf
  · exact nomatch hd

/-! ## Scaling fields by name -/

/-- The field of a name, if it has a row for every vertex. -/
def coveringNamed (m : Mesh) (name : String) : Except (Failure ActionError) Field :=
  match m.fields.find? (·.name == name) with
  | none => .error (.refused (.mesh (.unknownFieldName m.name name)))
  | some f =>
    match Length.mul? m.vertices.length f.components with
    | none => .error (.fault .overflow)
    | some expected =>
      if f.values.length = expected then .ok f
      else .error (.refused (.mesh (.fieldLength name expected f.values.length)))

def writeNamed (m : Mesh) (name : String) (values : List Float) : Mesh :=
  { m with fields := m.fields.map fun f => if f.name = name then { f with values } else f }

/-- The values of the target are those of the source times the factor of the step. -/
def scaleNamedByDt (m : Mesh) (source target : String) (scaling : DtScaling) (step : Step) :
    Except (Failure ActionError) (Mesh × List LogRecord) := do
  let s ← m.coveringNamed source
  let t ← m.coveringNamed target
  if source = target then .error (.refused (.mesh (.aliasedField s.id)))
  else if s.components = t.components then
    let factor := scaling.factor step
    return (m.writeNamed target (s.values.map (factor * ·)), [scaledRecord factor s t])
  else .error (.refused (.incompatible "scale-by-dt" (componentsDiffer s t)))

def scaleNamedByArea (m : Mesh) (target : String) (scaling : AreaScaling) :
    Except (Failure ActionError) (Mesh × List LogRecord) := do
  let t ← m.coveringNamed target
  return (m.writeNamed target (scaledRows scaling m.vertexAreas t.components t.values),
    unscaledRecords t (unscaledRows scaling m.vertexAreas t.components t.values))

theorem scaledOver_of_length_eq {factor : Float} {xs ys : List Float}
    (h : xs.length = ys.length) : scaledOver factor xs ys = xs.map (factor * ·) := by
  apply List.ext_getElem
  · simp [length_scaledOver, h]
  · intro i h₁ h₂
    simp only [List.length_map] at h₂
    simp [scaledOver, h₂, ← h]

theorem exists_of_name (hd : m.fieldNames[d.raw]? = some name) :
    ∃ f, m.fields[d.raw]? = some f ∧ f.name = name := by
  rw [fieldNames, List.getElem?_map] at hd
  exact Option.map_eq_some_iff.mp hd

namespace Labelled

theorem name_eq_iff (h : m.Labelled) (hd : m.fieldNames[d.raw]? = some name) {j : Nat}
    (hf : m.fields[j]? = some f) : f.name = name ↔ d.raw = j := by
  have hj : m.fieldNames[j]? = some f.name := by rw [fieldNames, List.getElem?_map, hf]; rfl
  constructor
  · rintro rfl
    exact (List.getElem?_inj (List.getElem?_eq_some_iff.mp hd).1 h.distinct).mp (hd.trans hj.symm)
  · rintro rfl
    exact Option.some.inj (hj.symm.trans hd)

theorem find?_eq (h : m.Labelled) (hd : m.fieldNames[d.raw]? = some name)
    (hf : m.fields[d.raw]? = some f) : m.fields.find? (·.name == name) = some f := by
  obtain ⟨hlt, hget⟩ := List.getElem?_eq_some_iff.mp hf
  refine List.find?_eq_some_iff_getElem.mpr ⟨by simpa using (h.name_eq_iff hd hf).mpr rfl,
    d.raw, hlt, hget, fun j hj => ?_⟩
  have hother := (h.name_eq_iff hd (List.getElem?_eq_getElem (Nat.lt_trans hj hlt))).not.mpr
    (Nat.ne_of_gt hj)
  simpa using hother

theorem writeNamed_eq (h : m.Labelled) (hd : m.fieldNames[d.raw]? = some name)
    (values : List Float) : m.writeNamed name values = m.setFieldValues d.raw values := by
  suffices hfields : (m.writeNamed name values).fields = (m.setFieldValues d.raw values).fields by
    simpa [writeNamed, setFieldValues] using hfields
  apply List.ext_getElem?
  intro j
  rw [getElem?_setFieldValues, writeNamed, List.getElem?_map]
  cases hj : m.fields[j]? with
  | none => rfl
  | some f => simp [h.name_eq_iff hd hj]

theorem coveringNamed_eq (h : m.Labelled) (hd : m.fieldNames[d.raw]? = some name)
    (hf : m.fields[d.raw]? = some f) :
    m.coveringNamed name =
      (match m.checkCoverage d with
        | .ok () => .ok f
        | .error e => .error (e.mapError .mesh)) := by
  have hname : f.name = name := (h.name_eq_iff hd hf).mpr rfl
  simp only [coveringNamed, checkCoverage, h.find?_eq hd hf, field_eq_ok_iff.mpr hf, hname]
  cases Length.mul? m.vertices.length f.components with
  | none => rfl
  | some expected => by_cases hlength : f.values.length = expected <;> simp [hlength]

theorem carrier?_eq (h : m.Labelled) (hf : m.fields[d.raw]? = some f) :
    m.carrier? d = some ⟨d.raw, f⟩ :=
  lastOf_zipIdx_eq_some_iff.mpr ⟨hf, h.numbered d.raw f hf, (h.numbered.owns d).2⟩

theorem length_of_covered (hf : m.fields[d.raw]? = some f) (hd : m.checkCoverage d = .ok ()) :
    f.values.length = m.vertices.length * f.components := by
  obtain ⟨g, hg, _, hlength⟩ := checkCoverage_eq_ok_iff.mp hd
  rw [field_eq_ok_iff, hf] at hg
  exact Option.some.inj hg ▸ hlength

theorem scaleByDt_eq (h : m.Labelled) {source target : FieldId} {sourceName targetName : String}
    (hs : m.fieldNames[source.raw]? = some sourceName)
    (ht : m.fieldNames[target.raw]? = some targetName) (scaling : DtScaling) (step : Step) :
    m.scaleByDt source target scaling step =
      m.scaleNamedByDt sourceName targetName scaling step := by
  obtain ⟨s, hsf, hsname⟩ := exists_of_name hs
  obtain ⟨t, htf, _⟩ := exists_of_name ht
  have hsame : source = target ↔ sourceName = targetName := by
    rw [← hsname, h.name_eq_iff ht hsf, FieldId.mk.injEq, eq_comm]
  simp only [scaleByDt, scaleNamedByDt, select, h.coveringNamed_eq hs hsf,
    h.coveringNamed_eq ht htf, Option.forM]
  cases hcs : m.checkCoverage source with
  | error e => rfl
  | ok u =>
    cases hct : m.checkCoverage target with
    | error e => rfl
    | ok u =>
      have hlengths : s.components = t.components → s.values.length = t.values.length := by
        intro hc
        rw [length_of_covered hsf hcs, length_of_covered htf hct, hc]
      by_cases hst : source = target
      · have hid : s.id = source := h.numbered source.raw s hsf
        simp only [if_pos hst, if_pos (hsame.mp hst)]
        subst hid
        rfl
      · have hpicked : m.picked (some source) (some target) =
            ⟨some ⟨source.raw, s⟩, some ⟨target.raw, t⟩⟩ := by
          have apart : ∀ d, some source = some d → some target ≠ some d := by
            rintro d hs ht
            exact hst (Option.some.inj (hs.trans ht.symm))
          rw [picked, foldl_pick apart]
          exact congrArg₂ Selection.mk (h.carrier?_eq hsf) (h.carrier?_eq htf)
        simp only [if_neg hst, if_neg (hsame.not.mp hst), hpicked, h.writeNamed_eq ht]
        by_cases hc : s.components = t.components
        · simp [bind, Except.bind, pure, Except.pure, hc, scaledOver_of_length_eq (hlengths hc)]
        · simp [bind, Except.bind, hc]

theorem scaleByArea_eq (h : m.Labelled) {target : FieldId}
    (ht : m.fieldNames[target.raw]? = some name) (scaling : AreaScaling) :
    m.scaleByArea target scaling = m.scaleNamedByArea name scaling := by
  obtain ⟨t, htf, _⟩ := exists_of_name ht
  have hpicked : m.picked none (some target) = ⟨none, some ⟨target.raw, t⟩⟩ := by
    have apart : ∀ d, none = some d → some target ≠ some d := fun _ h => nomatch h
    rw [picked, foldl_pick apart]
    exact congrArg (Selection.mk none) (h.carrier?_eq htf)
  simp only [scaleByArea, scaleNamedByArea, select, h.coveringNamed_eq ht htf, Option.forM,
    hpicked, h.writeNamed_eq ht]
  cases hct : m.checkCoverage target with
  | error e => rfl
  | ok u => rfl

end Labelled

end Mesh

end FieldMesh

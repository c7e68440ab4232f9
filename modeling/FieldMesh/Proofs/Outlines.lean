import FieldMesh.Proofs.Frames

/-! # Outlines of a mesh

User code reaches a mesh through the exporters of its fields. Whichever of them it writes through,
of the mesh only values of fields change, and not their number. So what could be selected before
user code ran can be selected afterwards.
-/

namespace FieldMesh

namespace Mesh

variable {m m' m'' : Mesh} {d : FieldId} {source target : Option FieldId} {sel : Selection}

/-- Of a mesh nothing has changed but values of fields. -/
structure Alike (m m' : Mesh) : Prop where
  same : { m' with fields := m.fields } = m
  outlines : m'.fields.map Field.outline = m.fields.map Field.outline

theorem RewritesOnly.alike (h : m.RewritesOnly target m') : m.Alike m' := ⟨h.same, h.outlines⟩

namespace Alike

theorem refl (m : Mesh) : m.Alike m := ⟨rfl, rfl⟩

theorem trans (h₁ : m.Alike m') (h₂ : m'.Alike m'') : m.Alike m'' where
  same := by
    have h := h₂.same
    rw [← h₁.same, ← h]
  outlines := h₂.outlines.trans h₁.outlines

theorem of_eq (h : m' = m) : m.Alike m' := h ▸ refl m

theorem vertices_eq (h : m.Alike m') : m'.vertices = m.vertices := by rw [← h.same]

theorem exists_field (h : m.Alike m') {i : Nat} {f : Field} (hf : m.fields[i]? = some f) :
    ∃ values, m'.fields[i]? = some { f with values } ∧ values.length = f.values.length := by
  have houtline : (m'.fields.map Field.outline)[i]? = some f.outline := by
    rw [h.outlines, List.getElem?_map, hf]
    rfl
  rw [List.getElem?_map] at houtline
  obtain ⟨g, hg, heq⟩ := Option.map_eq_some_iff.mp houtline
  obtain ⟨hrest, hlength⟩ := Prod.mk.inj heq
  refine ⟨g.values, ?_, hlength⟩
  have hfield : g = { f with values := g.values } :=
    congrArg (fun x : Field => { x with values := g.values }) hrest
  rw [hg, ← hfield]

theorem numbered (h : m.Alike m') (numbered : m.Numbered) : m'.Numbered := by
  have hids := congrArg (List.map fun outline : Field × Nat => outline.1.id) h.outlines
  refine numbered.of_ids ?_
  simpa only [List.map_map, Function.comp_def, Field.outline] using hids

theorem covered (h : m.Alike m') (hd : m.Covered d) : m'.Covered d := by
  obtain ⟨f, hf, hfits, hlength⟩ := hd
  obtain ⟨values, hg, hvalues⟩ := h.exists_field (field_eq_ok_iff.mp hf)
  refine ⟨_, field_eq_ok_iff.mpr hg, ?_, ?_⟩ <;> rw [h.vertices_eq]
  · exact hfits
  · exact hvalues.trans hlength

theorem select (h : m.Alike m') (selected : m.select source target = .ok sel) :
    m'.select source target = .ok ⟨source.bind m'.carrier?, target.bind m'.carrier?⟩ := by
  obtain ⟨hsource, htarget, apart, -⟩ := select_eq_ok_iff.mp selected
  exact select_eq_ok_iff.mpr
    ⟨fun d hd => h.covered (hsource d hd), fun d hd => h.covered (htarget d hd), apart, rfl⟩

end Alike

end Mesh

namespace Coupling

variable {c c' : Coupling}

theorem alike_setValue (c : Coupling) (memory : Memory) (position : Nat) (x : Float)
    (k : MeshKey) : (c.mesh k).Alike ((c.setValue memory position x).mesh k) := by
  cases memory with
  | detached block => exact .refl _
  | unreachable => exact .refl _
  | lent other field =>
    by_cases hother : k = other
    · subst hother
      have hlength : ∀ f, (c.mesh k).fields[field]? = some f →
          ((c.values (.lent k field)).set position x).length = f.values.length := by
        intro f hf
        simp only [values, hf, Option.map_some, Option.getD_some, List.length_set]
      exact (rewritesOnly_setMesh (Mesh.rewritesOnly_setFieldValues hlength)).alike
    · exact .of_eq (mesh_setMesh_of_ne hother _)

/-- By induction on the steps of user code. -/
theorem UserRun.alike (h : c.UserRun c') (k : MeshKey) : (c.mesh k).Alike (c'.mesh k) := by
  unfold UserRun at h
  induction h with
  | refl => exact .refl _
  | tail _ hstep ih =>
    refine ih.trans ?_
    cases hstep with
    | write id position x writable => exact alike_setValue _ _ _ _ k
    | note n => exact .refl _
    | objects lists holds garbage stored barren => exact .refl _
    | modify name f same => exact .refl _
    | enter l => exact .refl _
    | unload name forgettable => exact .refl _

theorem alike_lend (c : Coupling) (arrays : Option String) (k : MeshKey) (p : Placed)
    (writable : Bool) (other : MeshKey) :
    (c.mesh other).Alike ((c.lend arrays k p writable).2.mesh other) := by
  unfold Coupling.lend
  simp only
  split
  · exact .refl _
  · split <;> rename_i heq
    · exact ((userRun_wrap _ _ _).of_eq heq).alike other
    · exact ((userRun_wrap _ _ _).of_eq heq).alike other

end Coupling

namespace ScriptedAction

variable {a : ScriptedAction}

theorem alike_lendOne (a : ScriptedAction) (hooks : Hooks) (writable : Bool) (p : Option Placed)
    (c : Coupling) (k : MeshKey) :
    (c.mesh k).Alike ((a.lendOne hooks writable p c).2.mesh k) := by
  cases p with
  | none => exact .refl _
  | some p =>
    have hlend := c.alike_lend hooks.arrays a.mesh p writable k
    simp only [lendOne]
    split <;> rename_i heq <;> rw [heq] at hlend <;> exact hlend

theorem alike_lendAll (a : ScriptedAction) (hooks : Hooks) (fields : Selection) (c : Coupling)
    (k : MeshKey) : (c.mesh k).Alike ((a.lendAll hooks fields c).2.mesh k) := by
  have hsource := a.alike_lendOne hooks false fields.source c k
  rw [lendAll_eq]
  split <;> rename_i lending heq <;> rw [heq] at hsource
  · exact hsource
  · have htarget := a.alike_lendOne hooks true fields.target lending k
    split <;> rename_i heq <;> rw [heq] at htarget
    · exact hsource.trans htarget
    · refine (hsource.trans htarget).trans (.of_eq ?_)
      exact Coupling.mesh_of_cells (Coupling.givesBack_dropLoans _ _).cells k

theorem alike_runPerform (a : ScriptedAction) (hooks : Hooks) (fields : Selection) (step : Step)
    (c : Coupling) (k : MeshKey) :
    (c.mesh k).Alike ((a.runPerform hooks fields step c).2.2.mesh k) := by
  have hlend := a.alike_lendAll hooks fields (c.setInterpreter c.interpreter.retire) k
  rcases hbuilt : a.lendAll hooks fields (c.setInterpreter c.interpreter.retire) with
    ⟨e | lent, lending⟩ <;> rw [hbuilt] at hlend
  · rw [runPerform_of_unlent hbuilt]
    exact hlend
  · rw [runPerform_of_lent hbuilt]
    have hran := hlend.trans ((Coupling.userRun_run a.module (hooks.perform
      [step.time, step.length, step.computed, step.window] (lent.map (·.loan.object)))
      lending).alike k)
    exact hran.trans (.of_eq (Coupling.mesh_of_cells (Coupling.givesBack_endLoans lent _).cells k))

theorem select_of_alike {fields : Selection} {c c' : Coupling}
    (h : (c.mesh a.mesh).Alike (c'.mesh a.mesh)) (selected : a.select c = .ok fields) :
    a.select c' = .ok ⟨a.source.bind (c'.mesh a.mesh).carrier?,
      a.target.bind (c'.mesh a.mesh).carrier?⟩ := by
  exact mapError_eq_ok_iff.mpr (h.select (mapError_eq_ok_iff.mp selected))

end ScriptedAction

end FieldMesh

import FieldMesh.Proofs.Numbered
import FieldMesh.Proofs.Programs

/-! # What user code can write

User code writes through exporters that are writable. Where these stand for no field of a mesh but a
target, of all that the mesh consists of it changes the values of the target at most, and not their
number.
-/

namespace FieldMesh

/-- All about a field but its values: how many they are belongs to it. -/
def Field.outline (f : Field) : Field × Nat := ({ f with values := [] }, f.values.length)

namespace Mesh

variable {m m' m'' : Mesh} {target : Option FieldId}

/-- Of a mesh nothing has changed but values of a target field. -/
structure RewritesOnly (target : Option FieldId) (m m' : Mesh) : Prop where
  same : { m' with fields := m.fields } = m
  outlines : m'.fields.map Field.outline = m.fields.map Field.outline
  others : ∀ i, target ≠ some ⟨i⟩ → m'.fields[i]? = m.fields[i]?

namespace RewritesOnly

theorem refl (target : Option FieldId) (m : Mesh) : m.RewritesOnly target m :=
  ⟨rfl, rfl, fun _ _ => rfl⟩

theorem trans (h₁ : RewritesOnly target m m') (h₂ : RewritesOnly target m' m'') :
    RewritesOnly target m m'' where
  same := by
    have h := h₂.same
    rw [← h₁.same, ← h]
  outlines := h₂.outlines.trans h₁.outlines
  others i hi := (h₂.others i hi).trans (h₁.others i hi)

theorem of_eq (h : m' = m) : m.RewritesOnly target m' := h ▸ refl target m

theorem eq_of_none (h : RewritesOnly none m m') : m' = m := by
  have hfields : m'.fields = m.fields :=
    List.ext_getElem? fun i => h.others i fun hnone => nomatch hnone
  rw [← h.same, ← hfields]

theorem map_id (h : RewritesOnly target m m') : m'.fields.map (·.id) = m.fields.map (·.id) := by
  have hids := congrArg (List.map fun outline : Field × Nat => outline.1.id) h.outlines
  simpa only [List.map_map, Function.comp_def, Field.outline] using hids

theorem numbered (h : RewritesOnly target m m') (numbered : m.Numbered) : m'.Numbered :=
  numbered.of_ids h.map_id

end RewritesOnly

theorem rewritesOnly_setFieldValues {i : Nat} {xs : List Float}
    (hlength : ∀ f, m.fields[i]? = some f → xs.length = f.values.length) :
    m.RewritesOnly (some ⟨i⟩) (m.setFieldValues i xs) where
  same := rfl
  outlines :=
    m.map_setFieldValues i xs fun f hf => by rw [Field.outline, Field.outline, hlength f hf]
  others j hj := by
    have hij : i ≠ j := fun h => hj (h ▸ rfl)
    rw [getElem?_setFieldValues]
    cases m.fields[j]? <;> simp [hij]

end Mesh

namespace Coupling

variable {c c' c'' : Coupling} {k : MeshKey} {target : Option FieldId}

theorem mesh_of_cells (h : c'.cells = c.cells) (k : MeshKey) : c'.mesh k = c.mesh k := by
  rw [mesh, mesh, cell?, cell?, h]

theorem exists_of_writable {id : Nat} (h : (c.exporter id).writable = true) :
    c.interpreter.exporters[id]? = some (c.exporter id) := by
  cases he : c.interpreter.exporters[id]? with
  | none =>
    rw [exporter, he] at h
    exact nomatch h
  | some e => rw [exporter, he, Option.getD_some]

/-- Of the fields of a mesh, only a target is lent for writing. -/
def Guarded (k : MeshKey) (target : Option FieldId) (c : Coupling) : Prop :=
  ∀ (id : Nat) (e : Exporter) (position : Nat), c.interpreter.exporters[id]? = some e →
    e.writable = true → e.memory = .lent k position → target = some ⟨position⟩

theorem Guarded.of_eq (h : c.Guarded k target)
    (hexporters : c'.interpreter.exporters = c.interpreter.exporters) : c'.Guarded k target := by
  rwa [Guarded, hexporters]

/-- Of a mesh, nothing but a target is lent for writing, and nothing but it has been written. -/
structure WritesOnly (k : MeshKey) (target : Option FieldId) (c c' : Coupling) : Prop where
  guarded : c'.Guarded k target
  rewrites : (c.mesh k).RewritesOnly target (c'.mesh k)

namespace WritesOnly

theorem refl (h : c.Guarded k target) : WritesOnly k target c c := ⟨h, .refl _ _⟩

theorem trans (h₁ : WritesOnly k target c c') (h₂ : WritesOnly k target c' c'') :
    WritesOnly k target c c'' := ⟨h₂.guarded, h₁.rewrites.trans h₂.rewrites⟩

theorem of_result {α : Type} {r : α × Coupling} {x : α} (h : WritesOnly k target c r.2)
    (heq : r = (x, c')) : WritesOnly k target c c' := by
  rwa [heq] at h

theorem of_exporters (h : c.Guarded k target) (hcells : c'.cells = c.cells)
    (hexporters : ∀ (id : Nat) (e : Exporter), c'.interpreter.exporters[id]? = some e →
      ∃ e', c.interpreter.exporters[id]? = some e' ∧ e.writable = e'.writable ∧
        (e.memory = e'.memory ∨ ∀ position, e.memory ≠ .lent k position)) :
    WritesOnly k target c c' where
  guarded id e position he writable hmemory := by
    obtain ⟨e', he', hwritable, hsame | hgone⟩ := hexporters id e he
    · exact h id e' position he' (hwritable ▸ writable) (hsame ▸ hmemory)
    · exact absurd hmemory (hgone position)
  rewrites := .of_eq (mesh_of_cells hcells k)

theorem of_eq (h : c.Guarded k target) (hcells : c'.cells = c.cells)
    (hexporters : c'.interpreter.exporters = c.interpreter.exporters) : WritesOnly k target c c' :=
  ⟨h.of_eq hexporters, .of_eq (mesh_of_cells hcells k)⟩

end WritesOnly

theorem rewritesOnly_setMesh {m : Mesh} (h : (c.mesh k).RewritesOnly target m) :
    (c.mesh k).RewritesOnly target ((c.setMesh k m).mesh k) := by
  rcases c.mesh_setMesh_cases k m with heq | heq <;> rw [heq]
  · exact h
  · exact .refl _ _

theorem Guarded.setValue (h : c.Guarded k target) {id : Nat}
    (writable : (c.exporter id).writable = true) (position : Nat) (x : Float) :
    (c.mesh k).RewritesOnly target ((c.setValue (c.exporter id).memory position x).mesh k) := by
  have he := exists_of_writable writable
  cases hmemory : (c.exporter id).memory with
  | detached block => exact .refl _ _
  | unreachable => exact .refl _ _
  | lent other field =>
    by_cases hother : k = other
    · subst hother
      rw [h id _ field he writable hmemory]
      refine rewritesOnly_setMesh (Mesh.rewritesOnly_setFieldValues fun f hf => ?_)
      simp only [values, hf, Option.map_some, Option.getD_some, List.length_set]
    · exact .of_eq (mesh_setMesh_of_ne hother _)

/-- User code writes through exporters that are writable. The induction is on its steps. -/
theorem Guarded.userRun (h : c.Guarded k target) (hrun : c.UserRun c') :
    WritesOnly k target c c' where
  guarded := h.of_eq hrun.confined.exporters
  rewrites := by
    unfold UserRun at hrun
    induction hrun with
    | refl => exact .refl _ _
    | @tail before _ hbefore hstep ih =>
      refine ih.trans ?_
      cases hstep with
      | write id position x writable =>
        exact (h.of_eq (UserRun.confined hbefore).exporters).setValue writable position x
      | note n => exact .refl _ _
      | objects lists holds garbage stored barren => exact .refl _ _
      | modify name f same => exact .refl _ _
      | enter l => exact .refl _ _
      | unload name forgettable => exact .refl _ _

end Coupling

end FieldMesh

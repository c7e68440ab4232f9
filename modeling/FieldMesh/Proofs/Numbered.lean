import FieldMesh.Proofs.Outcomes

/-! # Numbered fields

Fields are numbered when each of them carries its position as its id. Every edit keeps this up,
whether it succeeds, is refused or stops at a fault, except one that puts a field of another id
in a place.
-/

namespace FieldMesh

namespace Mesh

variable {m n : Mesh} {d : FieldId}

/-- Every field carries its position. -/
def Numbered (m : Mesh) : Prop := ∀ (i : Nat) (f : Field), m.fields[i]? = some f → f.id = ⟨i⟩

theorem getElem?_setFieldValues (m : Mesh) (i : Nat) (xs : List Float) (j : Nat) :
    (m.setFieldValues i xs).fields[j]? =
      m.fields[j]?.map fun f => if i = j then { f with values := xs } else f := by
  change (m.fields.modify i _)[j]? = _
  rw [List.getElem?_modify]
  cases m.fields[j]? with
  | none => rfl
  | some f => by_cases hij : i = j <;> simp [hij]

theorem map_setFieldValues {α : Type} {g : Field → α} (m : Mesh) (i : Nat) (xs : List Float)
    (hg : ∀ f, m.fields[i]? = some f → g { f with values := xs } = g f) :
    (m.setFieldValues i xs).fields.map g = m.fields.map g := by
  apply List.ext_getElem?
  intro j
  rw [List.getElem?_map, List.getElem?_map, getElem?_setFieldValues]
  cases hj : m.fields[j]? with
  | none => rfl
  | some f =>
    by_cases hij : i = j
    · simp [hij, hg f (hij ▸ hj)]
    · simp [hij]

theorem Numbered.of_ids (h : m.Numbered)
    (hids : n.fields.map (·.id) = m.fields.map (·.id)) : n.Numbered := by
  intro i f hf
  have hi : (m.fields.map (·.id))[i]? = some f.id := by rw [← hids, List.getElem?_map, hf]; rfl
  rw [List.getElem?_map] at hi
  obtain ⟨old, hold, hid⟩ := Option.map_eq_some_iff.mp hi
  rw [← hid]
  exact h i old hold

theorem Numbered.withField (h : m.Numbered) (name : String) (k : Nat) :
    (m.withField name k).Numbered := by
  intro i f hf
  change (m.fields ++ [Field.declare ⟨m.fields.length⟩ name k])[i]? = some f at hf
  rcases Nat.lt_or_ge i m.fields.length with hlt | hge
  · rw [List.getElem?_append_left hlt] at hf
    exact h i f hf
  · rw [List.getElem?_append_right hge, List.getElem?_singleton] at hf
    split at hf
    · cases hf
      exact congrArg FieldId.mk (by omega)
    · exact nomatch hf

theorem Numbered.set (h : m.Numbered) {f : Field} (hid : f.id = d) :
    ({ m with fields := m.fields.set d.raw f } : Mesh).Numbered := by
  intro i g hg
  change (m.fields.set d.raw f)[i]? = some g at hg
  rw [List.getElem?_set] at hg
  split at hg
  · rename_i hi
    split at hg
    · cases hg
      rw [hid, ← hi]
    · exact nomatch hg
  · exact h i g hg

end Mesh

namespace Edit

/-- Whether a field that is put in a place carries the id of that place. -/
def keepsIds : Edit → Bool
  | putField d f => f.id = d
  | _ => true

end Edit

namespace Mesh.Numbered

variable {m : Mesh}

theorem apply (h : m.Numbered) {e : Edit} (he : e.keepsIds = true) :
    (e.apply m).mesh.Numbered := by
  cases e with
  | createVertex cs =>
    rcases m.createVertex_cases cs with
      ⟨_, _, heq⟩ | ⟨c, _, ⟨_, heq⟩ | ⟨done, f, rest, _, hfs, _, _, heq⟩⟩
    · exact h.of_ids (by simp [Edit.apply, heq])
    · exact h.of_ids (by simp [Edit.apply, heq, withVertex, Function.comp_def])
    · exact h.of_ids (by simp [Edit.apply, heq, hfs, Function.comp_def])
  | moveVertex v cs =>
    refine h.of_ids ?_
    simp only [Edit.apply, moveVertex]
    split
    · rfl
    · split <;> rfl
  | removeVertex v =>
    rcases m.removeVertex_cases v with ⟨_, heq⟩ | ⟨slot, _, heq | ⟨done, f, rest, hfs, _, heq⟩⟩
    · exact h.of_ids (by simp [Edit.apply, heq])
    · exact h.of_ids
        (by simp [Edit.apply, heq, withoutVertex, refilterGroups, Function.comp_def])
    · exact h.of_ids (by simp [Edit.apply, heq, hfs, Function.comp_def])
  | createEdge a b =>
    refine h.of_ids ?_
    simp only [Edit.apply, createEdge]
    split <;> rfl
  | createTriangle a b c =>
    refine h.of_ids ?_
    simp only [Edit.apply, createTriangle]
    split <;> rfl
  | createField name k =>
    simp only [Edit.apply, createField]
    split
    · exact h
    · split
      · exact h
      · exact h.withField name k
  | allocate =>
    rcases m.allocate_cases with ⟨_, heq⟩ | ⟨done, f, rest, _, hfs, _, heq⟩
    · exact h.of_ids (by simp [Edit.apply, heq, withRows, Field.sized, Function.comp_def])
    · exact h.of_ids (by simp [Edit.apply, heq, hfs, Field.sized, Function.comp_def])
  | createGroup name vs =>
    refine h.of_ids ?_
    simp only [Edit.apply, createGroup]
    split
    · rfl
    · split <;> rfl
  | setValues d xs =>
    simp only [Edit.apply, setValues]
    split
    · exact h
    · exact h.of_ids (m.map_setFieldValues _ _ fun _ _ => rfl)
  | setRow d slot xs =>
    simp only [Edit.apply, setRow]
    split
    · exact h
    · split
      · exact h
      · exact h
      · exact h.of_ids (m.map_setFieldValues _ _ fun _ _ => rfl)
  | putField d f =>
    simp only [Edit.apply, putField]
    split
    · exact h
    · exact h.set (of_decide_eq_true he)

theorem run (h : m.Numbered) {es : List Edit} (keeps : ∀ e ∈ es, e.keepsIds = true) :
    (Edit.run m es).Numbered := by
  induction es generalizing m with
  | nil => exact h
  | cons e es ih =>
    rw [List.forall_mem_cons] at keeps
    exact ih (h.apply keeps.1) keeps.2

end Mesh.Numbered

end FieldMesh

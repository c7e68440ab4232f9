import FieldMesh.Proofs.Fields
import FieldMesh.Proofs.Runs

/-! # Outcomes of edits

For every edit that can be refused or stop at a fault, the ways it can end and the mesh it
leaves in each of them. Later proofs argue from these cases and do not open the edits again.
-/

namespace FieldMesh

/-- What a field becomes when the mesh gets its `n`-th vertex: only allocated fields grow. -/
def Field.extended (f : Field) (n : Nat) : Field := if f.allocated then f.sized n else f

theorem Field.extended_of_allocated {f : Field} (h : f.allocated = true) (n : Nat) :
    f.extended n = f.sized n := by simp [extended, h]

theorem Field.extended_of_unallocated {f : Field} (h : f.allocated = false) (n : Nat) :
    f.extended n = f := by simp [extended, h]

@[simp] theorem Field.name_extended (f : Field) (n : Nat) : (f.extended n).name = f.name := by
  unfold extended
  split <;> rfl

@[simp] theorem Field.id_extended (f : Field) (n : Nat) : (f.extended n).id = f.id := by
  unfold extended
  split <;> rfl

namespace Mesh

/-- A new vertex under the next id; the fields are those of the old vertices. -/
def grown (m : Mesh) (c : Coords) : Mesh :=
  { m with
    nextId := m.nextId + 1
    slots := m.slots.insert ⟨m.nextId⟩ m.vertices.length
    vertices := m.vertices ++ [⟨⟨m.nextId⟩, c⟩] }

def withVertex (m : Mesh) (c : Coords) : Mesh :=
  { m.grown c with fields := m.fields.map (·.extended (m.vertices.length + 1)) }

def withCoords (m : Mesh) (slot : Nat) (c : Coords) : Mesh :=
  { m with vertices := m.vertices.modify slot fun w => { w with coords := c } }

/-- The vertex of a slot and its elements are gone; fields and groups still count it. -/
def pruned (m : Mesh) (v : VertexId) (slot : Nat) : Mesh :=
  { m with
    vertices := m.vertices.eraseIdx slot
    slots := closeGap (m.slots.erase v) ((m.vertices.eraseIdx slot).drop slot)
    edges := m.edges.filter fun e => !e.touches v
    triangles := m.triangles.filter fun t => !t.touches v }

/-- The vertex of a slot is gone with its elements and rows, and from the groups. -/
def withoutVertex (m : Mesh) (v : VertexId) (slot : Nat) : Mesh :=
  refilterGroups { m.pruned v slot with fields := m.fields.map (·.cut slot) }

def withRows (m : Mesh) : Mesh :=
  { m with fields := m.fields.map (·.sized m.vertices.length) }

def withEdge (m : Mesh) (e : Edge) : Mesh :=
  { m with
    edges := m.edges ++ [e]
    groups := m.groups.map (·.offerEdge m.edges.length e) }

def withTriangle (m : Mesh) (t : Triangle) : Mesh :=
  { m with
    triangles := m.triangles ++ [t]
    groups := m.groups.map (·.offerTriangle m.triangles.length t) }

def withField (m : Mesh) (name : String) (components : Nat) : Mesh :=
  { m with fields := m.fields ++ [Field.declare ⟨m.fields.length⟩ name components] }

def withGroup (m : Mesh) (name : String) (selected : List VertexId) : Mesh :=
  { m with groups := m.groups ++
      [(Group.ofSelection name selected).refilter m.isLive m.edges m.triangles] }

/-- A new vertex is refused for its coordinates, or it is there; then a field may have stopped
the growth of the fields. -/
theorem createVertex_cases (m : Mesh) (cs : List Float) :
    (∃ e, m.coords cs = .error e ∧ m.createVertex cs = .refuse m e) ∨
      ∃ c, m.coords cs = .ok c ∧
        (((∀ f ∈ m.fields, f.allocated = true →
              (m.vertices.length + 1) * f.components ≤ Length.capacity) ∧
            m.createVertex cs = ⟨.ok ⟨m.nextId⟩, m.withVertex c⟩) ∨
          ∃ done f rest k, m.fields = done ++ f :: rest ∧ f.allocated = true ∧
            f.resize (m.vertices.length + 1) = .error k ∧
            m.createVertex cs = ⟨.error (.fault k), { m.grown c with
              fields := done.map (·.extended (m.vertices.length + 1)) ++ f :: rest }⟩) := by
  cases hc : m.coords cs with
  | error e => exact .inl ⟨e, rfl, by simp only [createVertex, hc]⟩
  | ok c =>
    refine .inr ⟨c, rfl, ?_⟩
    have hextended : ∀ f f' : Field,
        (if f.allocated then f.resize (m.vertices.length + 1) else .ok f) = .ok f' →
          f' = f.extended (m.vertices.length + 1) := by
      intro f f' h
      unfold Field.extended
      split at h <;> rename_i ha
      · rw [if_pos ha]
        exact (Field.resize_eq_ok_iff.mp h).2
      · rw [if_neg ha]
        exact (Except.ok.inj h).symm
    have hlength : (m.grown c).vertices.length = m.vertices.length + 1 := by simp [grown]
    have hcreate : m.createVertex cs = (m.grown c).editFields
        (fun f => if f.allocated then f.resize (m.vertices.length + 1) else .ok f)
        ⟨m.nextId⟩ := by
      rw [← hlength]
      simp only [createVertex, hc]
      rfl
    rcases editFields_cases hextended (m.grown c) (⟨m.nextId⟩ : VertexId) with
      ⟨hall, heq⟩ | ⟨done, f, rest, k, hfs, hk, heq⟩
    · refine .inl ⟨?_, hcreate.trans heq⟩
      intro f hf ha
      have hok := hall f hf
      rw [if_pos ha] at hok
      exact (Field.resize_eq_ok_iff.mp hok).1
    · split at hk
      · rename_i ha
        exact .inr ⟨done, f, rest, k, hfs, ha, hk, hcreate.trans heq⟩
      · exact nomatch hk

theorem removeVertex_of_slot {m : Mesh} {v : VertexId} {slot : Nat}
    (h : m.slots[v]? = some slot) :
    m.removeVertex v =
      match ((m.pruned v slot).editFields (fun f => f.removeSlot slot) ()).answer with
      | .error c =>
        ⟨.error c, ((m.pruned v slot).editFields (fun f => f.removeSlot slot) ()).mesh⟩
      | .ok () =>
        .guarded ((m.pruned v slot).editFields (fun f => f.removeSlot slot) ()).mesh.refilterGroups
          s!"mesh `{m.name}` after removing {v}" () := by
  simp only [removeVertex, h]
  rfl

/-- A removal is refused for an unknown vertex. Otherwise it takes place, unless the offset of
some row is no length. -/
theorem removeVertex_cases (m : Mesh) (v : VertexId) :
    (m.slots[v]? = none ∧ m.removeVertex v = .refuse m (.unknownVertex v)) ∨
      ∃ slot, m.slots[v]? = some slot ∧
        (m.removeVertex v = .guarded (m.withoutVertex v slot)
            s!"mesh `{m.name}` after removing {v}" () ∨
          ∃ done f rest, m.fields = done ++ f :: rest ∧
            ¬ slot * f.components + f.components < Length.limit ∧
            m.removeVertex v = ⟨.error (.fault .overflow), { m.pruned v slot with
              fields := done.map (·.cut slot) ++ f :: rest }⟩) := by
  cases hslot : m.slots[v]? with
  | none => exact .inl ⟨rfl, by simp only [removeVertex, hslot]⟩
  | some slot =>
    refine .inr ⟨slot, rfl, ?_⟩
    rw [removeVertex_of_slot hslot]
    rcases editFields_cases (g := (·.cut slot)) (fun _ _ => Field.removeSlot_eq_ok)
      (m.pruned v slot) () with ⟨_, heq⟩ | ⟨done, f, rest, k, hfs, hk, heq⟩
    · rw [heq]
      exact .inl rfl
    · have hfits : ¬ slot * f.components + f.components < Length.limit := by
        intro h
        rw [Field.removeSlot_of_fits h] at hk
        exact nomatch hk
      rw [Field.removeSlot_of_not_fits hfits] at hk
      cases hk
      rw [heq]
      exact .inr ⟨done, f, rest, hfs, hfits, rfl⟩

theorem allocate_cases (m : Mesh) :
    ((∀ f ∈ m.fields, m.vertices.length * f.components ≤ Length.capacity) ∧
        m.allocate = .guarded m.withRows s!"mesh `{m.name}` after data allocation" ()) ∨
      ∃ done f rest k, m.fields = done ++ f :: rest ∧
        f.resize m.vertices.length = .error k ∧
        m.allocate = ⟨.error (.fault k), { m with
          fields := done.map (·.sized m.vertices.length) ++ f :: rest }⟩ := by
  have hsized : ∀ f f' : Field,
      f.resize m.vertices.length = .ok f' → f' = f.sized m.vertices.length :=
    fun _ _ h => (Field.resize_eq_ok_iff.mp h).2
  rcases editFields_cases hsized m () with ⟨hall, heq⟩ | ⟨done, f, rest, k, hfs, hk, heq⟩
  · refine .inl ⟨fun f hf => (Field.resize_eq_ok_iff.mp (hall f hf)).1, ?_⟩
    simp only [allocate, heq]
    rfl
  · exact .inr ⟨done, f, rest, k, hfs, hk, by simp only [allocate, heq]⟩

theorem createGroup_cases (m : Mesh) (name : String) (vs : List VertexId) :
    (∃ e, m.createGroup name vs = .refuse m e) ∨
      ∃ selected, m.hasEntry name = false ∧ m.selectAll [] vs = .ok selected ∧
        m.createGroup name vs =
          .guarded (m.withGroup name selected) "invariant violated" () := by
  unfold createGroup
  split
  · exact .inl ⟨_, rfl⟩
  · rename_i hname
    split
    · exact .inl ⟨_, rfl⟩
    · rename_i selected hs
      exact .inr ⟨selected, Bool.not_eq_true _ ▸ hname, hs, rfl⟩

end Mesh

namespace Edit

/-- What an edit makes of a mesh apart from its fields, if every offset it needs is a length. -/
inductive Reshapes (m : Mesh) : Edit → Mesh → Prop
  | kept {e : Edit} (unknown : ∀ v, e = .removeVertex v → m.slots[v]? = none)
      (fs : List Field) : Reshapes m e { m with fields := fs }
  | createVertex {cs : List Float} {c : Coords} (hc : m.coords cs = .ok c) (fs : List Field) :
      Reshapes m (.createVertex cs) { m.grown c with fields := fs }
  | moveVertex {v : VertexId} {cs : List Float} {c : Coords} {slot : Nat}
      (hc : m.coords cs = .ok c) (hs : m.slots[v]? = some slot) :
      Reshapes m (.moveVertex v cs) (m.withCoords slot c)
  | removeVertex {v : VertexId} {slot : Nat} (hs : m.slots[v]? = some slot) (fs : List Field) :
      Reshapes m (.removeVertex v) (Mesh.refilterGroups { m.pruned v slot with fields := fs })
  | createEdge {a b : VertexId} (hcorners : m.checkCorners [] [a, b] = .ok ()) :
      Reshapes m (.createEdge a b) (m.withEdge ⟨a, b⟩)
  | createTriangle {a b c : VertexId} (hcorners : m.checkCorners [] [a, b, c] = .ok ()) :
      Reshapes m (.createTriangle a b c) (m.withTriangle ⟨a, b, c⟩)
  | createGroup {name : String} {vs selected : List VertexId} (hname : m.hasEntry name = false)
      (hs : m.selectAll [] vs = .ok selected) :
      Reshapes m (.createGroup name vs) (m.withGroup name selected)

/-- What an edit that succeeds makes of a mesh. -/
inductive Effect (m : Mesh) : Edit → Mesh → Prop
  | createVertex {cs : List Float} {c : Coords} (hc : m.coords cs = .ok c)
      (hcap : ∀ f ∈ m.fields, f.allocated = true →
        (m.vertices.length + 1) * f.components ≤ Length.capacity) :
      Effect m (.createVertex cs) (m.withVertex c)
  | moveVertex {v : VertexId} {cs : List Float} {c : Coords} {slot : Nat}
      (hc : m.coords cs = .ok c) (hs : m.slots[v]? = some slot) :
      Effect m (.moveVertex v cs) (m.withCoords slot c)
  | removeVertex {v : VertexId} {slot : Nat} (hs : m.slots[v]? = some slot) :
      Effect m (.removeVertex v) (m.withoutVertex v slot)
  | createEdge {a b : VertexId} (hcorners : m.checkCorners [] [a, b] = .ok ()) :
      Effect m (.createEdge a b) (m.withEdge ⟨a, b⟩)
  | createTriangle {a b c : VertexId} (hcorners : m.checkCorners [] [a, b, c] = .ok ()) :
      Effect m (.createTriangle a b c) (m.withTriangle ⟨a, b, c⟩)
  | createField {name : String} {n : Nat} (hn : n ≠ 0)
      (hname : m.fields.any (·.name == name) = false) :
      Effect m (.createField name n) (m.withField name n)
  | allocate (hcap : ∀ f ∈ m.fields, m.vertices.length * f.components ≤ Length.capacity) :
      Effect m .allocate m.withRows
  | createGroup {name : String} {vs selected : List VertexId} (hname : m.hasEntry name = false)
      (hs : m.selectAll [] vs = .ok selected) :
      Effect m (.createGroup name vs) (m.withGroup name selected)
  | setValues {d : FieldId} {xs : List Float} {f : Field} (hd : m.field d = .ok f) :
      Effect m (.setValues d xs) (m.setFieldValues d.raw (f.setValues xs).values)
  | setRow {d : FieldId} {slot : Nat} {xs : List Float} {f : Field} (hd : m.field d = .ok f)
      (hrow : slot * f.components + f.components ≤ f.values.length) :
      Effect m (.setRow d slot xs) (m.setFieldValues d.raw (f.writeRow slot xs).values)
  | noRow {d : FieldId} {slot : Nat} {xs : List Float} {f : Field} (hd : m.field d = .ok f)
      (hrow : f.setRow slot xs = .ok none) : Effect m (.setRow d slot xs) m

theorem Effect.reshapes {m n : Mesh} {e : Edit} (he : Effect m e n) : Reshapes m e n := by
  have kept : (∀ v, e = .removeVertex v → m.slots[v]? = none) →
      ∀ fs, Reshapes m e { m with fields := fs } := .kept
  cases he with
  | createVertex hc _ => exact .createVertex hc _
  | moveVertex hc hs => exact .moveVertex hc hs
  | removeVertex hs => exact .removeVertex hs _
  | createEdge hcorners => exact .createEdge hcorners
  | createTriangle hcorners => exact .createTriangle hcorners
  | createField _ _ => exact kept (fun _ h => nomatch h) _
  | allocate _ => exact kept (fun _ h => nomatch h) _
  | createGroup hname hs => exact .createGroup hname hs
  | setValues _ => exact kept (fun _ h => nomatch h) _
  | setRow _ _ => exact kept (fun _ h => nomatch h) _
  | noRow _ _ => exact kept (fun _ h => nomatch h) m.fields

/-- The mesh that an edit leaves, whether it succeeds, is refused or stops at a fault, unless it is
a removal and the fault is that an offset is no length. -/
theorem reshapes_apply_of_removal {m : Mesh} {e : Edit}
    (he : ∀ v, e = .removeVertex v → InRange m e) : Reshapes m e (e.apply m).mesh := by
  have kept : (∀ v, e = .removeVertex v → m.slots[v]? = none) →
      ∀ fs, Reshapes m e { m with fields := fs } := .kept
  cases e with
  | createVertex cs =>
    change Reshapes m _ (m.createVertex cs).mesh
    rcases m.createVertex_cases cs with
      ⟨_, _, heq⟩ | ⟨c, hc, ⟨_, heq⟩ | ⟨done, f, rest, k, _, _, _, heq⟩⟩
    · rw [heq]
      exact kept (fun _ h => nomatch h) m.fields
    · rw [heq]
      exact .createVertex hc _
    · rw [heq]
      exact .createVertex hc _
  | moveVertex v cs =>
    change Reshapes m _ (m.moveVertex v cs).mesh
    unfold Mesh.moveVertex
    split
    · exact kept (fun _ h => nomatch h) m.fields
    · rename_i c hc
      split
      · exact kept (fun _ h => nomatch h) m.fields
      · rename_i slot hs
        exact .moveVertex hc hs
  | removeVertex v =>
    change Reshapes m _ (m.removeVertex v).mesh
    rcases m.removeVertex_cases v with
      ⟨hnone, heq⟩ | ⟨slot, hs, heq | ⟨done, f, rest, _, _, heq⟩⟩
    · rw [heq]
      refine kept (fun w h => ?_) m.fields
      cases h
      exact hnone
    · rw [heq]
      exact .removeVertex hs _
    · exact absurd (by simp only [Edit.apply, heq, Edited.fault?]) (he v rfl)
  | createEdge a b =>
    change Reshapes m _ (m.createEdge a b).mesh
    unfold Mesh.createEdge
    split
    · exact kept (fun _ h => nomatch h) m.fields
    · rename_i hcorners
      exact .createEdge hcorners
  | createTriangle a b c =>
    change Reshapes m _ (m.createTriangle a b c).mesh
    unfold Mesh.createTriangle
    split
    · exact kept (fun _ h => nomatch h) m.fields
    · rename_i hcorners
      exact .createTriangle hcorners
  | createField name n =>
    change Reshapes m _ (m.createField name n).mesh
    unfold Mesh.createField
    split
    · exact kept (fun _ h => nomatch h) m.fields
    · split
      · exact kept (fun _ h => nomatch h) m.fields
      · exact kept (fun _ h => nomatch h) _
  | allocate =>
    change Reshapes m _ m.allocate.mesh
    rcases m.allocate_cases with ⟨_, heq⟩ | ⟨done, f, rest, k, _, _, heq⟩
    · rw [heq]
      exact kept (fun _ h => nomatch h) _
    · rw [heq]
      exact kept (fun _ h => nomatch h) _
  | createGroup name vs =>
    change Reshapes m _ (m.createGroup name vs).mesh
    rcases m.createGroup_cases name vs with ⟨_, heq⟩ | ⟨selected, hname, hs, heq⟩
    · rw [heq]
      exact kept (fun _ h => nomatch h) m.fields
    · rw [heq]
      exact .createGroup hname hs
  | setValues d xs =>
    change Reshapes m _ (m.setValues d xs).mesh
    unfold Mesh.setValues
    split
    · exact kept (fun _ h => nomatch h) m.fields
    · exact kept (fun _ h => nomatch h) _
  | setRow d slot xs =>
    change Reshapes m _ (m.setRow d slot xs).mesh
    unfold Mesh.setRow
    split
    · exact kept (fun _ h => nomatch h) m.fields
    · split
      · exact kept (fun _ h => nomatch h) m.fields
      · exact kept (fun _ h => nomatch h) m.fields
      · exact kept (fun _ h => nomatch h) _
  | putField d f =>
    change Reshapes m _ (m.putField d f).mesh
    unfold Mesh.putField
    split
    · exact kept (fun _ h => nomatch h) m.fields
    · exact kept (fun _ h => nomatch h) _

theorem reshapes_apply {m : Mesh} {e : Edit} (he : InRange m e) :
    Reshapes m e (e.apply m).mesh :=
  reshapes_apply_of_removal fun _ _ => he

end Edit

end FieldMesh

import FieldMesh.Proofs.Sound

/-! # When fields are allocated

A field that is allocated early gains and loses rows with the vertices; one that is allocated late
gets a row for each of them at once. New rows are zero in either case, so that among edits of
vertices, elements and groups it makes no difference when the fields of a mesh are allocated.
-/

namespace FieldMesh

namespace Field

variable {f : Field} {n slot : Nat}

theorem sized_of_length_eq (ha : f.allocated = true)
    (hlength : f.values.length = n * f.components) : f.sized n = f := by
  have hvalues : f.values.take (n * f.components) ++
      List.replicate (n * f.components - f.values.length) 0.0 = f.values := by
    rw [← hlength, List.take_length, Nat.sub_self, List.replicate_zero, List.append_nil]
  rw [sized, hvalues, ← ha]

@[simp] theorem sized_sized (f : Field) (n : Nat) : (f.sized n).sized n = f.sized n :=
  sized_of_length_eq (f.allocated_sized n) (f.length_sized n)

namespace Covers

theorem sized_of_allocated (h : f.Covers n) (ha : f.allocated = true) : f.sized n = f :=
  sized_of_length_eq ha (h.length_of_allocated ha)

theorem sized_of_unallocated (h : f.Covers n) (ha : f.allocated = false) (k : Nat) :
    f.sized k =
      { f with values := List.replicate (k * f.components) 0.0, allocated := true } := by
  simp [sized, h.values_of_unallocated ha]

theorem extended_sized (h : f.Covers n) :
    (f.sized n).extended (n + 1) = (f.extended (n + 1)).sized (n + 1) := by
  rw [extended_of_allocated (f.allocated_sized n)]
  cases ha : f.allocated with
  | false =>
    have hmore : n * f.components ≤ (n + 1) * f.components :=
      Nat.mul_le_mul_right _ (Nat.le_succ n)
    rw [extended_of_unallocated ha, h.sized_of_unallocated ha, h.sized_of_unallocated ha]
    simp only [sized, List.length_replicate, List.take_replicate, Nat.min_eq_right hmore,
      List.replicate_append_replicate, Nat.add_sub_cancel' hmore]
  | true => rw [h.sized_of_allocated ha, extended_of_allocated ha, sized_sized]

theorem cut_sized (h : f.Covers n) (hs : slot < n) :
    (f.sized n).cut slot = (f.cut slot).sized (n - 1) := by
  cases ha : f.allocated with
  | false =>
    have hrow := row_end_le hs f.components
    have hleft : slot * f.components + (n * f.components - (slot * f.components + f.components)) =
        (n - 1) * f.components := by
      rw [Nat.sub_mul, Nat.one_mul]
      omega
    rw [h.cut_of_unallocated ha, h.sized_of_unallocated ha, h.sized_of_unallocated ha]
    simp only [Field.cut, List.length_replicate, if_pos hrow, List.take_replicate,
      List.drop_replicate, List.replicate_append_replicate,
      Nat.min_eq_left (Nat.le_of_add_right_le hrow), hleft]
  | true =>
    have hcut : (f.cut slot).allocated = true := (f.allocated_cut slot).trans ha
    rw [h.sized_of_allocated ha, (h.cut hs).sized_of_allocated hcut]

end Covers

end Field

/-- The same answer, and the fields of the mesh are allocated. -/
def Edited.allocated {α : Type} (r : Edited α) : Edited α := ⟨r.answer, r.mesh.withRows⟩

namespace Mesh

open Edit (Affordable Along Fitting)

variable {m : Mesh}

@[simp] theorem withRows_withRows (m : Mesh) : m.withRows.withRows = m.withRows := by
  simp [withRows, Function.comp_def]

theorem withVertex_withRows (h : m.Filled) (c : Coords) :
    m.withRows.withVertex c = (m.withVertex c).withRows := by
  have hlength : (m.withVertex c).vertices.length = m.vertices.length + 1 := List.length_append
  have hfields : m.withRows.fields.map (·.extended (m.vertices.length + 1)) =
      (m.withVertex c).withRows.fields := by
    rw [withRows, withRows, hlength, withVertex, List.map_map, List.map_map]
    exact List.map_congr_left fun f hf => (h.fields_cover f hf).extended_sized
  exact congrArg (fun fs => { m.withVertex c with fields := fs }) hfields

theorem withoutVertex_withRows (h : m.Filled) {slot : Nat} (hs : slot < m.vertices.length)
    (v : VertexId) : m.withRows.withoutVertex v slot = (m.withoutVertex v slot).withRows := by
  have hlength : (m.withoutVertex v slot).vertices.length = m.vertices.length - 1 :=
    List.length_eraseIdx_of_lt hs
  have hfields : m.withRows.fields.map (·.cut slot) =
      (m.withoutVertex v slot).withRows.fields := by
    rw [withRows, withRows, hlength, withoutVertex, refilterGroups, List.map_map, List.map_map]
    exact List.map_congr_left fun f hf => (h.fields_cover f hf).cut_sized hs
  exact congrArg (fun fs => { m.withoutVertex v slot with fields := fs }) hfields

/-! ## Calls on a mesh and on the mesh with its fields allocated -/

theorem createVertex_withRows (h : m.Filled) {cs : List Float}
    (before : Affordable m (.createVertex cs)) (after : Affordable m.withRows (.createVertex cs)) :
    m.withRows.createVertex cs = (m.createVertex cs).allocated := by
  cases hc : m.coords cs with
  | error e =>
    have hrows : m.withRows.coords cs = .error e := hc
    simp only [createVertex, hc, hrows]
    rfl
  | ok c =>
    have hrows : m.withRows.coords cs = .ok c := hc
    rw [(createVertex_of_affordable hc before).2, (createVertex_of_affordable hrows after).2,
      withVertex_withRows h]
    rfl

theorem moveVertex_withRows (m : Mesh) (v : VertexId) (cs : List Float) :
    m.withRows.moveVertex v cs = (m.moveVertex v cs).allocated := by
  have hcoords : m.withRows.coords cs = m.coords cs := rfl
  have hslots : m.withRows.slots = m.slots := rfl
  simp only [moveVertex, hcoords, hslots]
  cases m.coords cs with
  | error e => rfl
  | ok c =>
    cases m.slots[v]? with
    | none => rfl
    | some slot => simp [Edited.allocated, withRows]

theorem removeVertex_withRows (h : m.Sound) (hrows : m.withRows.Sound) {v : VertexId}
    (before : Affordable m (.removeVertex v)) (after : Affordable m.withRows (.removeVertex v)) :
    m.withRows.removeVertex v = (m.removeVertex v).allocated := by
  cases hs : m.slots[v]? with
  | none =>
    have hnone : m.withRows.slots[v]? = none := hs
    simp only [removeVertex, hs, hnone]
    rfl
  | some slot =>
    rw [h.removeVertex_eq hs before, hrows.removeVertex_eq hs after,
      withoutVertex_withRows h.toFilled (h.slot_lt hs)]
    rfl

theorem createEdge_withRows (m : Mesh) (a b : VertexId) :
    m.withRows.createEdge a b = (m.createEdge a b).allocated := by
  have hcorners : m.withRows.checkCorners [] [a, b] = m.checkCorners [] [a, b] := rfl
  simp only [createEdge, hcorners]
  cases m.checkCorners [] [a, b] <;> rfl

theorem createTriangle_withRows (m : Mesh) (a b c : VertexId) :
    m.withRows.createTriangle a b c = (m.createTriangle a b c).allocated := by
  have hcorners : m.withRows.checkCorners [] [a, b, c] = m.checkCorners [] [a, b, c] := rfl
  simp only [createTriangle, hcorners]
  cases m.checkCorners [] [a, b, c] <;> rfl

theorem selectAll_withRows (m : Mesh) (chosen vs : List VertexId) :
    m.withRows.selectAll chosen vs = m.selectAll chosen vs := by
  induction vs generalizing chosen with
  | nil => rfl
  | cons v vs ih =>
    have hlive : m.withRows.isLive v = m.isLive v := rfl
    simp only [selectAll, hlive, ih]

/-- The checks that end the declaration of a group find nothing in a sound mesh. -/
theorem createGroup_withRows (h : m.Sound) (hrows : m.withRows.Sound) (name : String)
    (vs : List VertexId) :
    m.withRows.createGroup name vs = (m.createGroup name vs).allocated := by
  have hentry : m.withRows.hasEntry name = m.hasEntry name := rfl
  cases hname : m.hasEntry name with
  | true =>
    simp only [createGroup, hentry, hname]
    rfl
  | false =>
    cases hs : m.selectAll [] vs with
    | error e =>
      simp only [createGroup, hentry, hname, selectAll_withRows, hs]
      rfl
    | ok selected =>
      have hvalid := (h.effect (.createGroup hname hs)).validate
      have hsrows := (m.selectAll_withRows [] vs).trans hs
      have hrows := (hrows.effect (.createGroup (hentry.trans hname) hsrows)).validate
      simp only [createGroup, hentry, hname, hs, hsrows]
      exact (guarded_of_valid hrows _ ()).trans
        (congrArg Edited.allocated (guarded_of_valid hvalid _ ())).symm

namespace Sound

theorem allocate_eq (h : m.Sound) (he : Affordable m .allocate) :
    m.allocate = ⟨.ok (), m.withRows⟩ := by
  rw [allocate_of_affordable he]
  exact guarded_of_valid (h.effect (.allocate he)).validate _ ()

theorem affordable_allocate (hrows : m.withRows.Sound) : Affordable m .allocate := by
  intro f hf
  have hstored := (hrows.fields_cover _ (List.mem_map_of_mem hf)).stored
  rwa [Field.length_sized] at hstored

end Sound

end Mesh

namespace Edit

open Mesh

/-- What a call that succeeds hands back. -/
inductive Handed where
  | nothing
  | vertex (v : VertexId)
  | position (i : Nat)
  | field (d : FieldId)
  | found (row : Bool)
deriving DecidableEq

def reply (m : Mesh) : Edit → Except (Failure MeshError) Handed
  | createVertex cs => (m.createVertex cs).answer.map .vertex
  | moveVertex v cs => (m.moveVertex v cs).answer.map fun _ => .nothing
  | removeVertex v => (m.removeVertex v).answer.map fun _ => .nothing
  | createEdge a b => (m.createEdge a b).answer.map .position
  | createTriangle a b c => (m.createTriangle a b c).answer.map .position
  | createField name n => (m.createField name n).answer.map .field
  | allocate => m.allocate.answer.map fun _ => .nothing
  | createGroup name vs => (m.createGroup name vs).answer.map fun _ => .nothing
  | setValues d xs => (m.setValues d xs).answer.map fun _ => .nothing
  | setRow d slot xs => (m.setRow d slot xs).answer.map .found
  | putField d f => (m.putField d f).answer.map fun _ => .nothing

/-- Whether a call is about vertices, elements or groups and not about fields. -/
def shapes : Edit → Bool
  | createVertex .. | moveVertex .. | removeVertex .. | createEdge .. | createTriangle ..
  | createGroup .. => true
  | createField .. | allocate | setValues .. | setRow .. | putField .. => false

variable {m : Mesh} {e : Edit} {es : List Edit}

theorem affordable_of_withRows (shapes : e.shapes = true) (he : Affordable m.withRows e) :
    Affordable m e := by
  cases e with
  | createVertex cs =>
    exact fun hcount f hf _ => he hcount (f.sized m.vertices.length) (List.mem_map_of_mem hf) rfl
  | removeVertex v =>
    exact fun slot hs f hf => he slot hs (f.sized m.vertices.length) (List.mem_map_of_mem hf)
  | moveVertex _ _ | createEdge _ _ | createTriangle _ _ _ | createGroup _ _ => trivial
  | createField _ _ | allocate | setValues _ _ | setRow _ _ _ | putField _ _ =>
    exact absurd shapes Bool.false_ne_true

/-- What one call makes of a mesh it makes of the mesh with its fields allocated, and it answers
the same. -/
theorem apply_withRows (h : m.Sound) (hrows : m.withRows.Sound) (shapes : e.shapes = true)
    (he : Affordable m.withRows e) :
    e.reply m.withRows = e.reply m ∧ (e.apply m.withRows).mesh = (e.apply m).mesh.withRows := by
  have before : Affordable m e := affordable_of_withRows shapes he
  cases e with
  | createVertex cs =>
    rw [reply, reply, Edit.apply, Edit.apply, createVertex_withRows h.toFilled before he]
    exact ⟨rfl, rfl⟩
  | moveVertex v cs =>
    rw [reply, reply, Edit.apply, Edit.apply, moveVertex_withRows]
    exact ⟨rfl, rfl⟩
  | removeVertex v =>
    rw [reply, reply, Edit.apply, Edit.apply, removeVertex_withRows h hrows before he]
    exact ⟨rfl, rfl⟩
  | createEdge a b =>
    rw [reply, reply, Edit.apply, Edit.apply, createEdge_withRows]
    exact ⟨rfl, rfl⟩
  | createTriangle a b c =>
    rw [reply, reply, Edit.apply, Edit.apply, createTriangle_withRows]
    exact ⟨rfl, rfl⟩
  | createGroup name vs =>
    rw [reply, reply, Edit.apply, Edit.apply, createGroup_withRows h hrows]
    exact ⟨rfl, rfl⟩
  | createField _ _ | allocate | setValues _ _ | setRow _ _ _ | putField _ _ =>
    exact absurd shapes Bool.false_ne_true

/-- What a run makes of a mesh it makes of the mesh with its fields allocated, and there is room to
allocate them at its end. -/
theorem run_withRows (h : m.Sound) (hrows : m.withRows.Sound)
    (shapes : ∀ e ∈ es, e.shapes = true) (calls : Along Affordable m.withRows es) :
    run m.withRows es = (run m es).withRows ∧ (run m es).Sound ∧ (run m es).withRows.Sound := by
  induction es generalizing m with
  | nil => exact ⟨rfl, h, hrows⟩
  | cons e es ih =>
    rw [List.forall_mem_cons] at shapes
    have hmesh := (apply_withRows h hrows shapes.1 calls.1).2
    have hnext := (h.apply_of_affordable (affordable_of_withRows shapes.1 calls.1)).1
    have hnextRows := (hrows.apply_of_affordable calls.1).1
    have hrest := calls.2
    rw [hmesh] at hnextRows hrest
    rw [run_cons, run_cons, hmesh]
    exact ih hnext hnextRows shapes.2 hrest

theorem Along.affordable (h : m.Sound) (calls : Along Fitting m es) : Along Affordable m es :=
  calls.mono_of_invariant (fun _ _ hm he => (hm.apply he).1)
    (fun _ _ hm he => hm.affordable_of_fitting he) h

theorem run_allocate (h : m.Sound) (he : Affordable m .allocate) :
    run m [.allocate] = m.withRows ∧ reply m .allocate = .ok .nothing := by
  rw [run_cons, Edit.apply, reply, h.allocate_eq he]
  exact ⟨rfl, rfl⟩

theorem run_allocate_cons (h : m.Sound) (shapes : ∀ e ∈ es, e.shapes = true)
    (calls : Along Affordable m (.allocate :: es)) :
    run m (.allocate :: es) = run m (es ++ [.allocate]) ∧ (run m es).Sound ∧
      Affordable (run m es) .allocate := by
  have hrows : m.withRows.Sound := h.effect (.allocate calls.1)
  have hfirst : (Edit.apply m .allocate).mesh = m.withRows := (run_allocate h calls.1).1
  have hcalls := calls.2
  rw [hfirst] at hcalls
  obtain ⟨hrun, hsound, hsized⟩ := run_withRows h hrows shapes hcalls
  have hlast := Sound.affordable_allocate hsized
  refine ⟨?_, hsound, hlast⟩
  rw [run_cons, hfirst, hrun, run_append, (run_allocate hsound hlast).1]

/-- At every point of a run from an empty mesh, allocating the fields can be exchanged with a call
about vertices, elements or groups: both orders leave the same mesh, and each of the two calls
answers in both what it answers in the other. Allocating again changes nothing, and among such
calls it leaves the same mesh wherever it stands as it does at their end. -/
theorem allocate_anywhere {name : String} {dimensions : Nat} {start : Mesh}
    (created : Mesh.new? name dimensions = .ok start) {before : List Edit}
    (calls : Along Fitting start before) :
    let m := run start before
    (∀ e, e.shapes = true → Along Fitting m [.allocate, e] →
        run m [.allocate, e] = run m [e, .allocate] ∧
          e.reply (run m [.allocate]) = e.reply m ∧
          reply m .allocate = .ok .nothing ∧ reply (run m [e]) .allocate = .ok .nothing) ∧
      (Fitting m .allocate →
        run m [.allocate, .allocate] = run m [.allocate] ∧
          reply m .allocate = .ok .nothing ∧
          reply (run m [.allocate]) .allocate = .ok .nothing) ∧
      ∀ first last, (∀ e ∈ first ++ last, e.shapes = true) →
        Along Fitting m (first ++ .allocate :: last) →
        run m (first ++ .allocate :: last) = run m (first ++ last ++ [.allocate]) := by
  intro m
  have sound : m.Sound := (Sound.of_new created).run calls
  refine ⟨fun e shapes both => ?_, fun fitting => ?_, fun first last shapes placed => ?_⟩
  · have affordable := both.affordable sound
    obtain ⟨hrows, hreply⟩ := run_allocate sound affordable.1
    have hmesh : (Edit.apply m .allocate).mesh = m.withRows := hrows
    have hcall : Affordable m.withRows e := hmesh ▸ affordable.2.1
    obtain ⟨hrun, hsound, hlast⟩ :=
      run_allocate_cons sound (List.forall_mem_singleton.mpr shapes) affordable
    refine ⟨hrun, ?_, hreply, (run_allocate hsound hlast).2⟩
    rw [hrows]
    exact (apply_withRows sound (sound.effect (.allocate affordable.1)) shapes hcall).1
  · have affordable := sound.affordable_of_fitting fitting
    obtain ⟨hrows, hreply⟩ := run_allocate sound affordable
    have hsized : m.withRows.Sound := sound.effect (.allocate affordable)
    have again : Affordable m.withRows .allocate :=
      Sound.affordable_allocate (m.withRows_withRows.symm ▸ hsized)
    obtain ⟨hrows', hreply'⟩ := run_allocate hsized again
    have htwice : run m [.allocate, .allocate] = run (run m [.allocate]) [.allocate] := rfl
    rw [htwice, hrows]
    exact ⟨hrows'.trans m.withRows_withRows, hreply, hreply'⟩
  · obtain ⟨hfirst, hlast⟩ := (along_append _ _).mp placed
    have hsound : (run m first).Sound := sound.run hfirst
    have shapes' : ∀ e ∈ last, e.shapes = true := fun e he =>
      shapes e (List.mem_append_right _ he)
    rw [run_append, List.append_assoc, run_append]
    exact (run_allocate_cons hsound shapes' (hlast.affordable hsound)).1

/-- One of two fields has rows, the other has none yet, and a vertex below others is removed. -/
theorem allocate_anywhere_mixedRun :
    Mesh.new? "M" 2 = .ok (.plane "M") ∧ Along Fitting (.plane "M") mixedRun ∧
      let m := run (.plane "M") mixedRun
      m.fields.map (·.allocated) = [true, false] ∧
        (Edit.removeVertex ⟨2⟩).shapes = true ∧
        Along Fitting m [.allocate, .removeVertex ⟨2⟩] ∧
        run m [.allocate, .removeVertex ⟨2⟩] = run m [.removeVertex ⟨2⟩, .allocate] ∧
        Fitting m .allocate ∧ run m [.allocate, .allocate] = run m [.allocate] ∧
        Along Fitting m [.createVertex [1.0, 2.0], .allocate, .removeVertex ⟨2⟩] ∧
        run m [.createVertex [1.0, 2.0], .allocate, .removeVertex ⟨2⟩] =
          run m [.createVertex [1.0, 2.0], .removeVertex ⟨2⟩, .allocate] := by
  have calls : Along Fitting (.plane "M") mixedRun := by decide +kernel
  have both : Along Fitting (run (.plane "M") mixedRun) [.allocate, .removeVertex ⟨2⟩] := by
    decide +kernel
  have placed : Along Fitting (run (.plane "M") mixedRun)
      [.createVertex [1.0, 2.0], .allocate, .removeVertex ⟨2⟩] := by decide +kernel
  obtain ⟨exchange, again, anywhere⟩ := allocate_anywhere (Mesh.new_plane "M") calls
  exact ⟨rfl, calls, rfl, rfl, both, (exchange _ rfl both).1, both.1, (again both.1).1, placed,
    anywhere [.createVertex [1.0, 2.0]] [.removeVertex ⟨2⟩] (by decide) placed⟩

end Edit

end FieldMesh

import FieldMesh.Proofs.Numbered
import FieldMesh.Proofs.Validation
import FieldMesh.Proofs.Wired

/-! # Sound meshes

A mesh is sound when it is wired and its fields stand where their ids say, under names of their
own, each covering the vertices. Every edit that replaces no field and whose lengths fit keeps a
mesh sound, and a sound mesh passes validation, so that no such edit finds an invariant broken.
-/

namespace FieldMesh

namespace Mesh

/-- Fields have their positions as ids, names of their own, and cover the vertices. -/
structure Filled (m : Mesh) : Prop where
  field_id : ∀ (i : Nat) (f : Field), m.fields[i]? = some f → f.id = ⟨i⟩
  nodup_fieldNames : (m.fields.map (·.name)).Nodup
  fields_cover : ∀ f ∈ m.fields, f.Covers m.vertices.length

/-- All parts of the mesh agree. -/
structure Sound (m : Mesh) : Prop extends Wired m, Filled m

namespace Filled

variable {m n : Mesh}

theorem covers_ids (h : m.Filled) {f : Field} (hf : f ∈ m.fields) : f.Covers m.ids.length := by
  rw [length_ids]
  exact h.fields_cover f hf

theorem of_map (h : m.Filled) {g : Field → Field} (hfields : n.fields = m.fields.map g)
    (hid : ∀ f, (g f).id = f.id) (hname : ∀ f, (g f).name = f.name)
    (hcovers : ∀ f ∈ m.fields, (g f).Covers n.vertices.length) : n.Filled := by
  refine ⟨?_, ?_, ?_⟩
  · have hids : n.fields.map (·.id) = m.fields.map (·.id) := by
      rw [hfields, List.map_map]
      exact List.map_congr_left fun f _ => hid f
    exact Numbered.of_ids h.field_id hids
  · rw [hfields, List.map_map]
    have hnames : (fun f : Field => f.name) ∘ g = fun f => f.name := funext hname
    rw [hnames]
    exact h.nodup_fieldNames
  · intro f hf
    rw [hfields] at hf
    obtain ⟨old, hold, rfl⟩ := List.mem_map.mp hf
    exact hcovers old hold

theorem of_same_fields (h : m.Filled) (hfields : n.fields = m.fields)
    (hlength : n.vertices.length = m.vertices.length) : n.Filled :=
  h.of_map (g := id) (by rw [hfields, List.map_id]) (fun _ => rfl) (fun _ => rfl)
    fun f hf => hlength ▸ h.fields_cover f hf

theorem setFieldValues (h : m.Filled) {i : Nat} {f : Field} (hf : m.fields[i]? = some f)
    {xs : List Float} (hx : xs.length = f.values.length) : (m.setFieldValues i xs).Filled := by
  have hget := m.getElem?_setFieldValues i xs
  refine ⟨Numbered.of_ids h.field_id (m.map_setFieldValues i xs fun _ _ => rfl), ?_, ?_⟩
  · rw [m.map_setFieldValues i xs fun _ _ => rfl]
    exact h.nodup_fieldNames
  · intro g hg
    obtain ⟨j, hj⟩ := List.mem_iff_getElem?.mp hg
    rw [hget] at hj
    obtain ⟨old, hold, rfl⟩ := Option.map_eq_some_iff.mp hj
    have hcovers := h.fields_cover old (List.mem_of_getElem? hold)
    split
    · rename_i hij
      rw [← hij, hf] at hold
      exact hcovers.of_length_eq (hx.trans (by rw [Option.some.inj hold]))
    · exact hcovers

theorem withVertex (h : m.Filled) (c : Coords)
    (hcap : ∀ f ∈ m.fields, f.allocated = true →
      (m.vertices.length + 1) * f.components ≤ Length.capacity) : (m.withVertex c).Filled := by
  refine h.of_map rfl (fun f => f.id_extended _) (fun f => f.name_extended _) ?_
  intro f hf
  have hlength : (m.withVertex c).vertices.length = m.vertices.length + 1 := by
    simp [Mesh.withVertex, grown]
  have hcovers := h.fields_cover f hf
  rw [hlength]
  cases ha : f.allocated with
  | false =>
    rw [Field.extended_of_unallocated ha]
    exact hcovers.of_unallocated ha _
  | true =>
    rw [Field.extended_of_allocated ha]
    exact Field.covers_sized hcovers.components_pos (hcap f hf ha)

theorem withoutVertex (h : m.Filled) {slot : Nat} (hlt : slot < m.vertices.length)
    (v : VertexId) : (m.withoutVertex v slot).Filled := by
  refine h.of_map rfl (fun f => f.id_cut _) (fun f => f.name_cut _) ?_
  intro f hf
  have hlength : (m.withoutVertex v slot).vertices.length = m.vertices.length - 1 :=
    List.length_eraseIdx_of_lt hlt
  rw [hlength]
  exact (h.fields_cover f hf).cut hlt

theorem withRows (h : m.Filled)
    (hcap : ∀ f ∈ m.fields, m.vertices.length * f.components ≤ Length.capacity) :
    m.withRows.Filled := by
  refine h.of_map rfl (fun _ => rfl) (fun _ => rfl) ?_
  intro f hf
  exact Field.covers_sized (h.fields_cover f hf).components_pos (hcap f hf)

theorem withField (h : m.Filled) {name : String} {n : Nat} (hn : n ≠ 0)
    (hname : m.fields.any (·.name == name) = false) : (m.withField name n).Filled := by
  refine ⟨Numbered.withField h.field_id name n, ?_, ?_⟩
  · have hnew : name ∉ m.fields.map (·.name) := by
      rw [← any_name_iff, hname]
      exact Bool.false_ne_true
    have hall := h.nodup_fieldNames.concat hnew
    rw [List.concat_eq_append] at hall
    rw [Mesh.withField, List.map_append]
    exact hall
  · intro f hf
    rcases List.mem_append.mp hf with hf | hf
    · exact h.fields_cover f hf
    · rw [List.mem_singleton] at hf
      rw [hf]
      exact Field.covers_declare _ _ (Nat.one_le_iff_ne_zero.mpr hn) _

end Filled

/-- A wired mesh passes every check but those of its fields. -/
theorem Wired.checks {m : Mesh} (h : m.Wired) :
    m.checkVertices [] m.vertices.zipIdx = .ok () ∧ m.checkSlots = .ok () ∧
      m.checkListed m.allCorners = .ok () ∧
      ∀ g ∈ m.groups, m.checkListed g.selection = .ok () := by
  obtain ⟨hvertices, hslots⟩ := checks_iff_indexed.mpr h.toIndexed
  refine ⟨hvertices, hslots, checkListed_allCorners_iff.mpr ⟨?_, ?_⟩, fun g hg => ?_⟩
  · exact fun e he => (h.edges_span e he).2
  · exact fun t ht => (h.triangles_span t ht).2
  · exact checkListed_eq_ok_iff.mpr (h.groups_follow g hg).live

namespace Sound

variable {m : Mesh}

theorem of_new {name : String} {dimensions : Nat} (h : Mesh.new? name dimensions = .ok m) :
    m.Sound := by
  refine { toWired := Wired.of_new h, toFilled := ?_ }
  obtain ⟨_, rfl⟩ := new_eq_ok_iff.mp h
  exact ⟨by simp, by simp, by simp⟩

theorem effect (h : m.Sound) {e : Edit} {n : Mesh} (he : e.Effect m n) : n.Sound := by
  refine { toWired := h.toWired.reshaped he.reshapes, toFilled := ?_ }
  cases he with
  | createVertex _ hcap => exact h.toFilled.withVertex _ hcap
  | moveVertex _ _ => exact h.toFilled.of_same_fields rfl (List.length_modify _ _ _)
  | removeVertex hs => exact h.toFilled.withoutVertex (h.slot_lt hs) _
  | createEdge _ => exact h.toFilled.of_same_fields rfl rfl
  | createTriangle _ => exact h.toFilled.of_same_fields rfl rfl
  | createField hn hname => exact h.toFilled.withField hn hname
  | allocate hcap => exact h.toFilled.withRows hcap
  | createGroup _ _ => exact h.toFilled.of_same_fields rfl rfl
  | setValues hd => exact h.toFilled.setFieldValues (field_eq_ok_iff.mp hd) (Field.length_setValues _ _)
  | setRow hd hrow =>
    exact h.toFilled.setFieldValues (field_eq_ok_iff.mp hd) (Field.length_writeRow _ hrow)
  | noRow _ _ => exact h.toFilled

theorem validate (h : m.Sound) : m.validate = .ok () := by
  obtain ⟨hvertices, hslots, hcorners, hgroups⟩ := h.toWired.checks
  refine validate_eq_ok_iff.mpr ⟨hvertices, hslots, hcorners, fun f hf => ?_, hgroups⟩
  have hcovers := h.fields_cover f hf
  refine checkLength_eq_ok_iff.mpr ⟨fun ha => ?_, hcovers.length_values⟩
  rw [← hcovers.length_of_allocated ha]
  exact Nat.lt_of_le_of_lt hcovers.stored Length.capacity_lt_limit

end Sound

end Mesh

namespace Edit

/-- A call that gives its answer, or a row write whose offset is no length: it stops there and
changes nothing. -/
def Returns (m : Mesh) (e : Edit) : Prop :=
  (e.apply m).fault? = none ∨
    (∃ d slot xs, e = .setRow d slot xs) ∧ (e.apply m).fault? = some .overflow ∧
      (e.apply m).mesh = m

/-- A call that replaces no field and whose lengths and offsets are in range: lists of values that
grow can be stored, and rows that are cut end at an offset. -/
def Affordable (m : Mesh) : Edit → Prop
  | createVertex cs => cs.length = m.dimensions → ∀ f ∈ m.fields, f.allocated = true →
      (m.vertices.length + 1) * f.components ≤ Length.capacity
  | removeVertex v => ∀ slot ∈ m.slots[v]?, ∀ f ∈ m.fields,
      slot * f.components + f.components < Length.limit
  | allocate => ∀ f ∈ m.fields, m.vertices.length * f.components ≤ Length.capacity
  | putField .. => False
  | _ => True

instance (m : Mesh) : (e : Edit) → Decidable (Affordable m e)
  | createVertex _ => inferInstanceAs (Decidable (_ → ∀ f ∈ m.fields, _ → _))
  | removeVertex v => inferInstanceAs (Decidable (∀ slot ∈ m.slots[v]?, ∀ f ∈ m.fields, _))
  | allocate => inferInstanceAs (Decidable (∀ f ∈ m.fields, _))
  | putField .. => isFalse id
  | moveVertex .. | createEdge .. | createTriangle .. | createField .. | createGroup ..
  | setValues .. | setRow .. => isTrue trivial

/-- The ways in which a call with lengths in range ends. -/
inductive Settles (m : Mesh) (e : Edit) : Prop
  | refused {x : MeshError} (heq : e.apply m = ⟨.error (.refused x), m⟩)
  | stopped (hrow : ∃ d slot xs, e = .setRow d slot xs)
      (heq : e.apply m = ⟨.error (.fault .overflow), m⟩)
  | succeeded {n : Mesh} (he : Effect m e n) (heq : e.apply m = ⟨.ok (), n⟩)

end Edit

namespace Mesh

open Edit (Affordable Fitting Returns Settles)

variable {m : Mesh}

theorem createVertex_of_affordable {cs : List Float} {c : Coords} (hc : m.coords cs = .ok c)
    (he : Affordable m (.createVertex cs)) :
    (∀ f ∈ m.fields, f.allocated = true →
        (m.vertices.length + 1) * f.components ≤ Length.capacity) ∧
      m.createVertex cs = ⟨.ok ⟨m.nextId⟩, m.withVertex c⟩ := by
  obtain ⟨hlist, hdimensions⟩ := coords_eq_ok hc
  have hcap := he (by rw [← hlist, Coords.length_toList, hdimensions])
  rcases createVertex_cases m cs with
    ⟨err, herr, _⟩ | ⟨c', hc', ⟨_, heq⟩ | ⟨done, f, rest, k, hfs, ha, hk, _⟩⟩
  · rw [hc] at herr
    exact nomatch herr
  · rw [hc] at hc'
    cases hc'
    exact ⟨hcap, heq⟩
  · have hok := Field.resize_eq_ok_iff.mpr ⟨hcap f (by simp [hfs]) ha, rfl⟩
    rw [hok] at hk
    exact nomatch hk

theorem allocate_of_affordable (he : Affordable m .allocate) :
    m.allocate = .guarded m.withRows s!"mesh `{m.name}` after data allocation" () := by
  rcases allocate_cases m with ⟨_, heq⟩ | ⟨done, f, rest, k, hfs, hk, _⟩
  · exact heq
  · have hok := Field.resize_eq_ok_iff.mpr ⟨he f (by simp [hfs]), rfl⟩
    rw [hok] at hk
    exact nomatch hk

theorem Indexed.affordable_removeVertex (h : m.Indexed) (hfits : m.Fits) (v : VertexId) :
    Affordable m (.removeVertex v) := by
  intro slot hs f hf
  exact Nat.lt_of_le_of_lt (Field.row_end_le (h.slot_lt hs) _) (hfits f hf)

theorem removeVertex_of_affordable {v : VertexId} {slot : Nat} (hs : m.slots[v]? = some slot)
    (he : Affordable m (.removeVertex v)) :
    m.removeVertex v =
      .guarded (m.withoutVertex v slot) s!"mesh `{m.name}` after removing {v}" () := by
  rcases removeVertex_cases m v with ⟨hnone, _⟩ | ⟨slot', hs', heq | ⟨done, f, rest, hfs, hf, _⟩⟩
  · rw [hs] at hnone
    exact nomatch hnone
  · rw [hs] at hs'
    cases hs'
    exact heq
  · exact absurd (he slot' hs' f (by simp [hfs])) hf

namespace Sound

/-- With fitting lengths and enough memory the lengths and offsets of a call are in range. -/
theorem affordable_of_fitting (h : m.Sound) {e : Edit} (he : Fitting m e) : Affordable m e := by
  obtain ⟨hkeeps, hbefore, hafter, hmemory⟩ := he
  cases e with
  | createVertex cs =>
    intro hlength
    rcases createVertex_cases m cs with
      ⟨err, herr, _⟩ | ⟨c, _, ⟨hcap, _⟩ | ⟨done, f, rest, k, _, _, hk, heq⟩⟩
    · exact absurd hlength (h.coords_eq_error_iff.mp herr).1
    · exact hcap
    · -- The field that stopped the growth had a length for its size, so that memory ran out.
      exfalso
      have happly : (Edit.createVertex cs).apply m = ⟨.error (.fault k), { m.grown c with
          fields := done.map (·.extended (m.vertices.length + 1)) ++ f :: rest }⟩ := by
        simp only [Edit.apply, heq]
        rfl
      rw [happly] at hafter hmemory
      have hgrown : (m.grown c).vertices.length = m.vertices.length + 1 := List.length_append
      have hf : (m.vertices.length + 1) * f.components < Length.limit := by
        rw [← hgrown]
        exact hafter f (List.mem_append_right _ List.mem_cons_self)
      rcases Field.resize_of_fits hf with hok | herror
      · rw [hok] at hk
        cases hk
      · rw [herror] at hk
        cases hk
        exact hmemory rfl
  | removeVertex v => exact h.toIndexed.affordable_removeVertex hbefore v
  | allocate =>
    rcases allocate_cases m with ⟨hcap, _⟩ | ⟨done, f, rest, k, hfs, hk, heq⟩
    · exact hcap
    · exfalso
      rcases Field.resize_of_fits (hbefore f (by simp [hfs])) with hok | herror
      · rw [hok] at hk
        cases hk
      · rw [herror] at hk
        cases hk
        apply hmemory
        simp only [Edit.apply, heq]
        rfl
  | putField d f => exact Bool.false_ne_true hkeeps
  | moveVertex _ _ | createEdge _ _ | createTriangle _ _ _ | createField _ _ | createGroup _ _
  | setValues _ _ | setRow _ _ _ => trivial

theorem removeVertex_eq (h : m.Sound) {v : VertexId} {slot : Nat} (hs : m.slots[v]? = some slot)
    (he : Affordable m (.removeVertex v)) :
    m.removeVertex v = ⟨.ok (), m.withoutVertex v slot⟩ := by
  rw [removeVertex_of_affordable hs he]
  exact guarded_of_valid (h.effect (.removeVertex hs)).validate _ ()

theorem settles_of_affordable (h : m.Sound) {e : Edit} (he : Affordable m e) : Settles m e := by
  cases e with
  | createVertex cs =>
    cases hc : m.coords cs with
    | error err => exact .refused (x := err) (by simp only [Edit.apply, Mesh.createVertex, hc]; rfl)
    | ok c =>
      obtain ⟨hcap, heq⟩ := createVertex_of_affordable hc he
      exact .succeeded (.createVertex hc hcap) (by simp only [Edit.apply, heq]; rfl)
  | moveVertex v cs =>
    cases hc : m.coords cs with
    | error err => exact .refused (x := err) (by simp only [Edit.apply, Mesh.moveVertex, hc]; rfl)
    | ok c =>
      cases hs : m.slots[v]? with
      | none =>
        exact .refused (x := .unknownVertex v)
          (by simp only [Edit.apply, Mesh.moveVertex, hc, hs]; rfl)
      | some slot =>
        exact .succeeded (.moveVertex hc hs)
          (by simp only [Edit.apply, Mesh.moveVertex, hc, hs]; rfl)
  | removeVertex v =>
    cases hs : m.slots[v]? with
    | none =>
      exact .refused (x := .unknownVertex v) (by simp only [Edit.apply, Mesh.removeVertex, hs]; rfl)
    | some slot => exact .succeeded (.removeVertex hs) (h.removeVertex_eq hs he)
  | createEdge a b =>
    cases hcorners : m.checkCorners [] [a, b] with
    | error err =>
      exact .refused (x := err) (by simp only [Edit.apply, Mesh.createEdge, hcorners]; rfl)
    | ok u =>
      exact .succeeded (.createEdge hcorners)
        (by simp only [Edit.apply, Mesh.createEdge, hcorners]; rfl)
  | createTriangle a b c =>
    cases hcorners : m.checkCorners [] [a, b, c] with
    | error err =>
      exact .refused (x := err) (by simp only [Edit.apply, Mesh.createTriangle, hcorners]; rfl)
    | ok u =>
      exact .succeeded (.createTriangle hcorners)
        (by simp only [Edit.apply, Mesh.createTriangle, hcorners]; rfl)
  | createField name n =>
    by_cases hn : n = 0
    · exact .refused (x := .noComponents name)
        (by simp only [Edit.apply, Mesh.createField, if_pos hn]; rfl)
    · by_cases hname : m.fields.any (·.name == name) = true
      · exact .refused (x := .duplicateName m.name name)
          (by simp only [Edit.apply, Mesh.createField, if_neg hn, if_pos hname]; rfl)
      · exact .succeeded (.createField hn (Bool.not_eq_true _ ▸ hname))
          (by simp only [Edit.apply, Mesh.createField, if_neg hn, if_neg hname]; rfl)
  | allocate =>
    refine .succeeded (.allocate he) ?_
    exact (allocate_of_affordable he).trans
      (guarded_of_valid (h.effect (.allocate he)).validate _ ())
  | createGroup name vs =>
    by_cases hname : m.hasEntry name = true
    · exact .refused (x := .duplicateName m.name name)
        (by simp only [Edit.apply, Mesh.createGroup, if_pos hname]; rfl)
    · cases hs : m.selectAll [] vs with
      | error err =>
        exact .refused (x := err)
          (by simp only [Edit.apply, Mesh.createGroup, if_neg hname, hs]; rfl)
      | ok selected =>
        have he : (Edit.createGroup name vs).Effect m (m.withGroup name selected) :=
          .createGroup (Bool.not_eq_true _ ▸ hname) hs
        refine .succeeded he ?_
        simp only [Edit.apply, Mesh.createGroup, if_neg hname, hs]
        exact guarded_of_valid (h.effect he).validate _ ()
  | setValues d xs =>
    cases hd : m.field d with
    | error err => exact .refused (x := err) (by simp only [Edit.apply, Mesh.setValues, hd]; rfl)
    | ok f => exact .succeeded (.setValues hd) (by simp only [Edit.apply, Mesh.setValues, hd])
  | setRow d slot xs =>
    cases hd : m.field d with
    | error err => exact .refused (x := err) (by simp only [Edit.apply, Mesh.setRow, hd]; rfl)
    | ok f =>
      rcases f.setRow_cases slot xs with hover | hnone | ⟨hrow, hsome⟩
      · exact .stopped ⟨d, slot, xs, rfl⟩
          (by simp only [Edit.apply, Mesh.setRow, hd, hover]; rfl)
      · exact .succeeded (.noRow hd hnone)
          (by simp only [Edit.apply, Mesh.setRow, hd, hnone]; rfl)
      · exact .succeeded (.setRow hd hrow)
          (by simp only [Edit.apply, Mesh.setRow, hd, hsome]; rfl)
  | putField d f => exact he.elim

theorem settles (h : m.Sound) {e : Edit} (he : Fitting m e) : Settles m e :=
  h.settles_of_affordable (h.affordable_of_fitting he)

/-- What one call preserves: the mesh it leaves is sound, and no check of it found otherwise. -/
theorem apply_of_affordable (h : m.Sound) {e : Edit} (he : Affordable m e) :
    (e.apply m).mesh.Sound ∧ Returns m e := by
  cases h.settles_of_affordable he with
  | refused heq =>
    rw [Returns, heq]
    exact ⟨h, .inl rfl⟩
  | stopped hrow heq =>
    rw [Returns, heq]
    exact ⟨h, .inr ⟨hrow, rfl, rfl⟩⟩
  | succeeded heffect heq =>
    rw [Returns, heq]
    exact ⟨h.effect heffect, .inl rfl⟩

theorem apply (h : m.Sound) {e : Edit} (he : Fitting m e) :
    (e.apply m).mesh.Sound ∧ Returns m e :=
  h.apply_of_affordable (h.affordable_of_fitting he)

theorem run_of_affordable (h : m.Sound) {es : List Edit} (calls : Edit.Along Affordable m es) :
    (Edit.run m es).Sound :=
  Edit.run_preserves (fun _ _ hm he => (hm.apply_of_affordable he).1) h calls

theorem run (h : m.Sound) {es : List Edit} (calls : Edit.Along Fitting m es) :
    (Edit.run m es).Sound :=
  Edit.run_preserves (fun _ _ hm he => (hm.apply he).1) h calls

theorem returns_along (h : m.Sound) {es : List Edit} (calls : Edit.Along Fitting m es) :
    Edit.Along Returns m es :=
  Edit.Along.mono_of_invariant (fun _ _ hm he => (hm.apply he).1)
    (fun _ _ hm he => (hm.apply he).2) h calls

end Sound

end Mesh

namespace Edit

/-- At every point of a run from an empty mesh all parts of the mesh agree, validation passes,
and no call of the run has stopped at a broken invariant. -/
theorem sound_of_run {name : String} {dimensions : Nat} {m : Mesh}
    (created : Mesh.new? name dimensions = .ok m) {es : List Edit}
    (calls : Along Fitting m es) :
    (run m es).Sound ∧ (run m es).validate = .ok () ∧ Along Returns m es := by
  have start : m.Sound := Mesh.Sound.of_new created
  have sound : (run m es).Sound := start.run calls
  exact ⟨sound, sound.validate, start.returns_along calls⟩

/-- A run with refused calls, a field declared late and a vertex removed below others. -/
def mixedRun : List Edit :=
  [.createField "T" 1, .createVertex [0.0, 1.0], .allocate, .createVertex [1.0],
    .createVertex [1.0, 1.0], .createVertex [2.0, 2.0], .createEdge ⟨0⟩ ⟨2⟩,
    .createEdge ⟨1⟩ ⟨1⟩, .createEdge ⟨1⟩ ⟨2⟩, .createTriangle ⟨0⟩ ⟨1⟩ ⟨2⟩,
    .createGroup "G" [⟨2⟩, ⟨0⟩, ⟨2⟩], .createField "V" 2, .setRow ⟨0⟩ 2 [5.0],
    .removeVertex ⟨1⟩, .removeVertex ⟨1⟩, .createEdge ⟨2⟩ ⟨0⟩, .createVertex [3.0, 3.0]]

theorem sound_of_run_mixedRun :
    Mesh.new? "M" 2 = .ok (.plane "M") ∧ Along Fitting (.plane "M") mixedRun ∧
      (run (.plane "M") mixedRun).ids = [⟨0⟩, ⟨2⟩, ⟨3⟩] ∧ (run (.plane "M") mixedRun).Sound := by
  have calls : Along Fitting (.plane "M") mixedRun := by decide +kernel
  exact ⟨rfl, calls, rfl, (sound_of_run (Mesh.new_plane "M") calls).1⟩

end Edit

end FieldMesh

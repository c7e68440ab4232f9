import FieldMesh.Proofs.Sound

/-! # Exchanged fields

Whoever may write to the fields of a mesh may put a field of another mesh in the place of one of
its own, of other dimensions, length or allocation. Only lengths are lost by this: ids, slots,
elements and groups agree as before, and every field keeps what fields have in common. A vertex
that is made, or an allocation, gives each field its length again.
-/

namespace FieldMesh

/-! ## What edits make of fields -/

namespace Field

/-- What every field is like, whatever mesh it belongs to: it has components, and it is empty until
it is allocated. -/
structure Portable (f : Field) : Prop where
  components_pos : 1 ≤ f.components
  empty : f.allocated = false → f.values = []

/-- A field that an edit can make of some fields, if it puts none of another mesh in their place. -/
inductive Descends (fs : List Field) : Field → Prop
  | kept {f : Field} (hf : f ∈ fs) : Descends fs f
  | sized {f : Field} (hf : f ∈ fs) (n : Nat) : Descends fs (f.sized n)
  | cut {f : Field} (hf : f ∈ fs) (slot : Nat) : Descends fs (f.cut slot)
  | written {f : Field} (hf : f ∈ fs) {xs : List Float} (hx : xs.length = f.values.length) :
      Descends fs { f with values := xs }
  | declared (id : FieldId) (name : String) {components : Nat} (hc : 1 ≤ components) :
      Descends fs (declare id name components)

variable {f g : Field} {fs : List Field}

theorem Descends.extended (hf : f ∈ fs) (n : Nat) : Descends fs (f.extended n) := by
  unfold Field.extended
  split
  · exact .sized hf n
  · exact .kept hf

theorem Descends.portable (h : Descends fs g) (hfs : ∀ f ∈ fs, f.Portable) : g.Portable := by
  cases h with
  | kept hf => exact hfs _ hf
  | sized hf n => exact ⟨(hfs _ hf).components_pos, nofun⟩
  | @cut f hf slot =>
    refine ⟨by simpa using (hfs f hf).components_pos, fun ha => ?_⟩
    rw [allocated_cut] at ha
    have hempty := (hfs f hf).empty ha
    unfold Field.cut
    split
    · simp [hempty]
    · exact hempty
  | @written f hf xs hx =>
    refine ⟨(hfs f hf).components_pos, fun ha => List.length_eq_zero_iff.mp ?_⟩
    rw [hx, (hfs f hf).empty ha]
    rfl
  | declared id name hc => exact ⟨hc, fun _ => rfl⟩

theorem Descends.of_stopped {done rest : List Field} {k : Field → Field}
    (hk : ∀ x ∈ done ++ f :: rest, Descends (done ++ f :: rest) (k x))
    (hg : g ∈ done.map k ++ f :: rest) : Descends (done ++ f :: rest) g := by
  rcases List.mem_append.mp hg with hg | hg
  · obtain ⟨x, hx, rfl⟩ := List.mem_map.mp hg
    exact hk x (List.mem_append_left _ hx)
  · exact .kept (List.mem_append_right _ hg)

end Field

namespace Edit

open FieldMesh.Field (Descends)

variable {m : Mesh} {e : Edit} {g : Field}

theorem descends_setFieldValues {d : FieldId} {f : Field} {xs : List Float}
    (hd : m.field d = .ok f) (hx : xs.length = f.values.length)
    (hg : g ∈ (m.setFieldValues d.raw xs).fields) : Descends m.fields g := by
  obtain ⟨i, hi⟩ := List.mem_iff_getElem?.mp hg
  rw [Mesh.getElem?_setFieldValues] at hi
  obtain ⟨old, hold, rfl⟩ := Option.map_eq_some_iff.mp hi
  split
  · rename_i hdi
    rw [← hdi, Mesh.field_eq_ok_iff.mp hd] at hold
    cases hold
    exact .written (List.mem_of_getElem? (Mesh.field_eq_ok_iff.mp hd)) hx
  · exact .kept (List.mem_of_getElem? hold)

/-- Where no field is put in the place of another, fields come from fields, wherever the edit
stops. -/
theorem fields_descend (he : e.keepsFields = true) (hg : g ∈ (e.apply m).mesh.fields) :
    Descends m.fields g := by
  have kept : ∀ {n : Mesh}, n.fields = m.fields → g ∈ n.fields → Descends m.fields g :=
    fun hn hg => .kept (hn ▸ hg)
  cases e with
  | createVertex cs =>
    rcases m.createVertex_cases cs with
      ⟨_, _, heq⟩ | ⟨c, _, ⟨_, heq⟩ | ⟨done, f, rest, _, hfs, _, _, heq⟩⟩ <;>
      simp only [Edit.apply, heq, Edited.mesh_discard] at hg
    · exact .kept hg
    · obtain ⟨f, hf, rfl⟩ := List.mem_map.mp hg
      exact .extended hf _
    · rw [hfs]
      exact .of_stopped (fun _ hx => .extended hx _) hg
  | moveVertex v cs =>
    refine kept ?_ hg
    simp only [Edit.apply, Mesh.moveVertex]
    split
    · rfl
    · split <;> rfl
  | removeVertex v =>
    rcases m.removeVertex_cases v with ⟨_, heq⟩ | ⟨slot, _, heq | ⟨done, f, rest, hfs, _, heq⟩⟩ <;>
      simp only [Edit.apply, heq] at hg
    · exact .kept hg
    · obtain ⟨f, hf, rfl⟩ := List.mem_map.mp hg
      exact .cut hf _
    · rw [hfs]
      exact .of_stopped (fun _ hx => .cut hx _) hg
  | createEdge a b =>
    refine kept ?_ hg
    simp only [Edit.apply, Mesh.createEdge]
    split <;> rfl
  | createTriangle a b c =>
    refine kept ?_ hg
    simp only [Edit.apply, Mesh.createTriangle]
    split <;> rfl
  | createField name n =>
    simp only [Edit.apply, Mesh.createField] at hg
    split at hg
    · exact .kept hg
    · rename_i hn
      split at hg
      · exact .kept hg
      · rcases List.mem_append.mp hg with hg | hg
        · exact .kept hg
        · rw [List.mem_singleton.mp hg]
          exact .declared _ _ (Nat.one_le_iff_ne_zero.mpr hn)
  | allocate =>
    rcases m.allocate_cases with ⟨_, heq⟩ | ⟨done, f, rest, _, hfs, _, heq⟩ <;>
      simp only [Edit.apply, heq] at hg
    · obtain ⟨f, hf, rfl⟩ := List.mem_map.mp hg
      exact .sized hf _
    · rw [hfs]
      exact .of_stopped (fun _ hx => .sized hx _) hg
  | createGroup name vs =>
    refine kept ?_ hg
    rcases m.createGroup_cases name vs with ⟨_, heq⟩ | ⟨_, _, _, heq⟩ <;>
      simp only [Edit.apply, heq] <;> rfl
  | setValues d xs =>
    simp only [Edit.apply, Mesh.setValues] at hg
    split at hg
    · exact .kept hg
    · rename_i f hd
      exact descends_setFieldValues hd (Field.length_setValues f xs) hg
  | setRow d slot xs =>
    simp only [Edit.apply, Mesh.setRow] at hg
    split at hg
    · exact .kept hg
    · rename_i f hd
      rcases f.setRow_cases slot xs with hover | hnone | ⟨hrow, hsome⟩
      · rw [hover] at hg
        exact .kept hg
      · rw [hnone] at hg
        exact .kept hg
      · rw [hsome] at hg
        exact descends_setFieldValues hd (Field.length_writeRow xs hrow) hg
  | putField d f => cases he

end Edit

namespace Mesh

/-! ## Runs with exchanged fields -/

/-- What a run of calls with offsets in range makes of an empty mesh, if it may put a field of any
such mesh in the place of another, and goes on from whatever mesh a call has left. -/
inductive Exchanged : Mesh → Prop
  | new {name : String} {dimensions : Nat} {m : Mesh} (h : Mesh.new? name dimensions = .ok m) :
      Exchanged m
  | edit {m : Mesh} {e : Edit} (h : Exchanged m) (keeps : e.keepsFields = true)
      (range : e.InRange m) : Exchanged (e.apply m).mesh
  | put {m n : Mesh} {f : Field} (h : Exchanged m) (other : Exchanged n) (hf : f ∈ n.fields)
      (d : FieldId) : Exchanged ((Edit.putField d f).apply m).mesh

/-- How many values a field has to hold. -/
def due (m : Mesh) (f : Field) : Nat := if f.allocated then m.vertices.length * f.components else 0

/-- Some field does not hold as many values as it has to. -/
def Mismatched (m : Mesh) : Prop := ∃ f ∈ m.fields, f.values.length ≠ m.due f

variable {m : Mesh}

theorem Exchanged.run (h : m.Exchanged) {es : List Edit}
    (calls : Edit.Along (fun n e => e.keepsFields = true ∧ e.InRange n) m es) :
    (Edit.run m es).Exchanged :=
  Edit.run_preserves (fun _ _ hm he => hm.edit he.1 he.2) h calls

/-- What stays of soundness when fields are exchanged. -/
theorem Exchanged.wired_portable (h : m.Exchanged) : m.Wired ∧ ∀ f ∈ m.fields, f.Portable := by
  induction h with
  | new h =>
    refine ⟨.of_new h, ?_⟩
    obtain ⟨_, rfl⟩ := new_eq_ok_iff.mp h
    exact nofun
  | edit _ keeps range ih =>
    exact ⟨ih.1.reshaped (Edit.reshapes_apply range),
      fun _ hg => (Edit.fields_descend keeps hg).portable ih.2⟩
  | @put m n f _ _ hf d ih other =>
    simp only [Edit.apply, putField]
    split
    · exact ih
    · refine ⟨ih.1.with_fields _, fun g hg => ?_⟩
      rcases List.mem_or_eq_of_mem_set hg with hg | rfl
      · exact ih.2 g hg
      · exact other.2 g hf

/-! ## What validation finds -/

/-- The check of a field compares its length with the one it has to have, if that is a length. -/
theorem checkLength_eq (m : Mesh) (f : Field) :
    m.checkLength f =
      if m.due f < Length.limit then
        if f.values.length = m.due f then .ok ()
        else .error (.refused (.fieldLength f.name (m.due f) f.values.length))
      else .error (.fault .overflow) := by
  unfold checkLength due
  cases f.allocated with
  | false => rfl
  | true =>
    by_cases hlt : m.vertices.length * f.components < Length.limit <;> simp [Length.mul?, hlt]

theorem Wired.validate_eq (h : m.Wired) : m.validate = m.fields.forM m.checkLength := by
  obtain ⟨hvertices, hslots, hcorners, hgroups⟩ := h.checks
  unfold validate
  rw [hvertices, hslots, hcorners, forM_eq_ok_iff.mpr hgroups]
  change (m.fields.forM m.checkLength >>= fun _ => .ok ()) = _
  cases m.fields.forM m.checkLength <;> rfl

theorem Wired.validate_cases (h : m.Wired) :
    (m.validate = .ok () ∧ ¬ m.Mismatched) ∨
      ∃ before f after, m.fields = before ++ f :: after ∧
        (∀ g ∈ before, g.values.length = m.due g) ∧
        ((m.due f < Length.limit ∧ f.values.length ≠ m.due f ∧ m.validate =
            .error (.refused (.fieldLength f.name (m.due f) f.values.length))) ∨
          (Length.limit ≤ m.due f ∧ m.validate = .error (.fault .overflow))) := by
  have passes : ∀ g, m.checkLength g = .ok () → g.values.length = m.due g := by
    intro g hg
    rw [checkLength_eq] at hg
    split at hg
    · split at hg
      · assumption
      · exact nomatch hg
    · exact nomatch hg
  rw [h.validate_eq]
  cases hforM : m.fields.forM m.checkLength with
  | ok u =>
    refine .inl ⟨rfl, fun ⟨f, hf, hne⟩ => ?_⟩
    exact hne (passes f (forM_eq_ok_iff.mp hforM f hf))
  | error x =>
    obtain ⟨before, f, after, hfields, hbefore, hf⟩ := forM_eq_error_iff.mp hforM
    refine .inr ⟨before, f, after, hfields, fun g hg => passes g (hbefore g hg), ?_⟩
    rw [checkLength_eq] at hf
    split at hf
    · rename_i hlt
      split at hf
      · exact nomatch hf
      · rename_i hne
        exact .inl ⟨hlt, hne, congrArg Except.error (Except.error.inj hf).symm⟩
    · rename_i hge
      exact .inr ⟨Nat.not_lt.mp hge, congrArg Except.error (Except.error.inj hf).symm⟩

theorem Wired.validate_of_due (h : m.Wired)
    (hdue : ∀ f ∈ m.fields, m.due f < Length.limit ∧ f.values.length = m.due f) :
    m.validate = .ok () := by
  rw [h.validate_eq, forM_eq_ok_iff]
  intro f hf
  rw [checkLength_eq, if_pos (hdue f hf).1, if_pos (hdue f hf).2]

/-- An edit that is guarded by validation stops where some field has lost its length. -/
theorem Wired.guarded_stops_iff {α : Type} (h : m.Wired) (context : String) (a : α)
    (hrange : (Edited.guarded m context a).answer ≠ .error (.fault .overflow)) :
    (∃ k, (Edited.guarded m context a).answer = .error (.fault k)) ↔ m.Mismatched := by
  unfold Edited.guarded Mesh.assert at hrange ⊢
  rcases h.validate_cases with
    ⟨hok, hmatched⟩ | ⟨before, f, after, hfields, _, ⟨_, hne, herr⟩ | ⟨_, herr⟩⟩
  · rw [hok]
    exact ⟨nofun, fun hm => absurd hm hmatched⟩
  · rw [herr]
    exact ⟨fun _ => ⟨f, by simp [hfields], hne⟩, fun _ => ⟨_, rfl⟩⟩
  · rw [herr] at hrange
    exact absurd rfl hrange

/-! ## Repairs -/

theorem due_of_allocated {f : Field} (h : f.allocated = true) :
    m.due f = m.vertices.length * f.components := by simp [due, h]

theorem due_of_unallocated {f : Field} (h : f.allocated = false) : m.due f = 0 := by simp [due, h]

theorem due_sized {f : Field} (hcap : m.vertices.length * f.components ≤ Length.capacity) :
    m.due (f.sized m.vertices.length) < Length.limit ∧
      (f.sized m.vertices.length).values.length = m.due (f.sized m.vertices.length) := by
  have hcaplt := Length.capacity_lt_limit
  rw [due_of_allocated rfl, Field.components_sized, Field.length_sized]
  exact ⟨by omega, rfl⟩

theorem due_of_portable {f : Field} (h : f.Portable) (ha : f.allocated = false) :
    m.due f < Length.limit ∧ f.values.length = m.due f := by
  rw [due_of_unallocated ha, h.empty ha]
  exact ⟨by decide, rfl⟩

theorem validate_withVertex (h : m.Wired) (hfields : ∀ f ∈ m.fields, f.Portable) {c : Coords}
    (hc : c.dimensions = m.dimensions)
    (hcap : ∀ f ∈ m.fields, f.allocated = true →
      (m.vertices.length + 1) * f.components ≤ Length.capacity) :
    (m.withVertex c).validate = .ok () := by
  have hlength : (m.withVertex c).vertices.length = m.vertices.length + 1 := by
    simp [withVertex, grown]
  refine ((h.grown hc).with_fields _).validate_of_due fun g hg => ?_
  obtain ⟨f, hf, rfl⟩ := List.mem_map.mp hg
  cases ha : f.allocated with
  | true =>
    rw [Field.extended_of_allocated ha, ← hlength]
    exact due_sized (hlength ▸ hcap f hf ha)
  | false =>
    rw [Field.extended_of_unallocated ha]
    exact due_of_portable (hfields f hf) ha

theorem validate_withRows (h : m.Wired)
    (hcap : ∀ f ∈ m.fields, m.vertices.length * f.components ≤ Length.capacity) :
    m.withRows.validate = .ok () := by
  refine (h.with_fields _).validate_of_due fun g hg => ?_
  obtain ⟨f, hf, rfl⟩ := List.mem_map.mp hg
  exact due_sized (m := m.withRows) (hcap f hf)

/-- Exchanging fields breaks nothing but lengths, and a vertex that is made or an allocation repairs
them. Fields have components and are empty until they are allocated. Validation passes or names a
field by its length. It passes after each vertex that is made, and after each allocation, which
stops at a size that is no length or cannot be stored, but never at its check. A removal or a new
group that is not refused stops exactly if some field of the mesh it leaves has not its length. -/
theorem Exchanged.breaks_lengths_only {m : Mesh} (hm : m.Exchanged) :
    (∀ f ∈ m.fields, 1 ≤ f.components ∧ (f.allocated = false → f.values = [])) ∧
    ((∀ f ∈ m.fields, m.due f < Length.limit) →
      (m.validate = .ok () ∧ ¬ m.Mismatched) ∨
        ∃ f ∈ m.fields, f.values.length ≠ m.due f ∧ m.validate =
          .error (.refused (.fieldLength f.name (m.due f) f.values.length))) ∧
    (∀ cs v, (m.createVertex cs).answer = .ok v →
      (m.createVertex cs).mesh.validate = .ok ()) ∧
    ((m.allocate.answer = .ok () ∧ m.allocate.mesh.validate = .ok ()) ∨
      ∃ f ∈ m.fields, Length.capacity < m.vertices.length * f.components ∧
        (m.allocate.answer = .error (.fault .overflow) ∨
          m.allocate.answer = .error (.fault .capacity))) ∧
    ∀ e : Edit, (∃ v, e = .removeVertex v) ∨ (∃ name vs, e = .createGroup name vs) →
      e.InRange m → (∀ x, (e.apply m).answer ≠ .error (.refused x)) →
        ((∃ k, (e.apply m).answer = .error (.fault k)) ↔ (e.apply m).mesh.Mismatched) := by
  obtain ⟨hwired, hfields⟩ := hm.wired_portable
  refine ⟨fun f hf => ⟨(hfields f hf).components_pos, (hfields f hf).empty⟩, fun hlengths => ?_,
    fun cs v hv => ?_, ?_, ?_⟩
  · rcases hwired.validate_cases with
      hvalid | ⟨before, f, after, hsplit, _, ⟨_, hne, herr⟩ | ⟨hlimit, _⟩⟩
    · exact .inl hvalid
    · exact .inr ⟨f, by simp [hsplit], hne, herr⟩
    · exact absurd (hlengths f (by simp [hsplit])) (Nat.not_lt.mpr hlimit)
  · rcases m.createVertex_cases cs with
      ⟨_, _, heq⟩ | ⟨c, hc, ⟨hcap, heq⟩ | ⟨_, _, _, _, _, _, _, heq⟩⟩ <;> rw [heq] at hv ⊢
    · exact nomatch hv
    · exact validate_withVertex hwired hfields (coords_eq_ok hc).2 hcap
    · exact nomatch hv
  · rcases m.allocate_cases with ⟨hcap, heq⟩ | ⟨done, f, rest, k, hsplit, hk, heq⟩
    · have hvalid := validate_withRows hwired hcap
      rw [heq, guarded_of_valid hvalid]
      exact .inl ⟨rfl, hvalid⟩
    · refine .inr ⟨f, by simp [hsplit], Nat.not_le.mp fun hle => ?_, ?_⟩
      · exact nomatch hk.symm.trans (Field.resize_eq_ok_iff.mpr ⟨hle, rfl⟩)
      · rw [heq]
        rcases Field.resize_eq_error hk with rfl | rfl
        · exact .inl rfl
        · exact .inr rfl
  · rintro e (⟨v, rfl⟩ | ⟨name, vs, rfl⟩) hrange hadmitted
    · rcases m.removeVertex_cases v with
        ⟨_, heq⟩ | ⟨slot, hs, heq | ⟨_, _, _, _, _, heq⟩⟩ <;>
        simp only [Edit.apply, Edit.InRange, Edited.fault?, heq] at hrange hadmitted ⊢
      · exact absurd rfl (hadmitted _)
      · have hleft : (m.withoutVertex v slot).Wired := hwired.removed hs _
        refine hleft.guarded_stops_iff _ () fun hover => hrange ?_
        rw [hover]
      · exact absurd rfl hrange
    · rcases m.createGroup_cases name vs with ⟨_, heq⟩ | ⟨selected, hname, hs, heq⟩ <;>
        simp only [Edit.apply, Edit.InRange, Edited.fault?, heq] at hrange hadmitted ⊢
      · exact absurd rfl (hadmitted _)
      · refine (hwired.withGroup hname hs).guarded_stops_iff _ () fun hover => hrange ?_
        rw [hover]

/-- Two vertices and a field with a value for each, whose place was taken by a field of two
components that was allocated in a mesh without vertices. -/
def swapped : Mesh :=
  ((Edit.putField ⟨0⟩ ⟨⟨0⟩, "U", 2, [], true⟩).apply
    (Edit.run (.plane "M") [.createField "T" 1, .createVertex [0.0, 0.0], .createVertex [1.0, 0.0],
      .allocate])).mesh

theorem breaks_lengths_only_swapped :
    swapped.Exchanged ∧ swapped.validate = .error (.refused (.fieldLength "U" 4 0)) ∧
      (∃ k, ((Edit.removeVertex ⟨0⟩).apply swapped).answer = .error (.fault k)) ∧
      swapped.allocate.mesh.validate = .ok () := by
  have host : (Edit.run (.plane "M") [.createField "T" 1, .createVertex [0.0, 0.0],
      .createVertex [1.0, 0.0], .allocate]).Exchanged :=
    (Exchanged.new (new_plane "M")).run (by decide +kernel)
  have other : (Edit.run (.plane "N") [.createField "U" 2, .allocate]).Exchanged :=
    (Exchanged.new (new_plane "N")).run (by decide +kernel)
  have hswapped : swapped.Exchanged := host.put other (List.mem_singleton.mpr rfl) ⟨0⟩
  obtain ⟨_, hvalidate, _, hallocate, hstops⟩ := hswapped.breaks_lengths_only
  have hlengths : ∀ f ∈ swapped.fields, swapped.due f < Length.limit := by decide +kernel
  refine ⟨hswapped, ?_, ?_, ?_⟩
  · rcases hvalidate hlengths with ⟨_, hmatched⟩ | ⟨f, hf, _, herr⟩
    · exact absurd ⟨_, List.mem_singleton.mpr rfl, by decide +kernel⟩ hmatched
    · cases List.mem_singleton.mp hf
      exact herr
  · refine (hstops (.removeVertex ⟨0⟩) (.inl ⟨_, rfl⟩) (by decide +kernel) nofun).mpr ?_
    exact ⟨_, List.mem_singleton.mpr rfl, by decide +kernel⟩
  · rcases hallocate with hrepaired | ⟨f, hf, hcap, _⟩
    · exact hrepaired.2
    · cases List.mem_singleton.mp hf
      exact absurd hcap (by decide +kernel)

end Mesh

end FieldMesh

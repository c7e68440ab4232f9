import FieldMesh.Action.Scale
import FieldMesh.Proofs.Sound

/-! # Requested fields

An action asks for fields by id. The field at the position of an id is checked, while the last
field that carries the id is handed out. The two are the same as long as fields carry their
positions, which every edit keeps up except one that puts a field of another id in a place.
-/

namespace FieldMesh

theorem option_forM_eq_ok_iff {α ε : Type} {o : Option α} {check : α → Except ε Unit} :
    o.forM check = .ok () ↔ ∀ a, o = some a → check a = .ok () := by
  cases o with
  | none => exact ⟨fun _ _ => nofun, fun _ => rfl⟩
  | some a => exact ⟨fun h b hb => Option.some.inj hb ▸ h, fun h => h a rfl⟩

theorem option_forM_eq_error_iff {α ε : Type} {o : Option α} {check : α → Except ε Unit} {e : ε} :
    o.forM check = .error e ↔ ∃ a, o = some a ∧ check a = .error e := by
  cases o with
  | none => exact ⟨nofun, nofun⟩
  | some a =>
    exact ⟨fun h => ⟨a, rfl, h⟩, fun ⟨b, hb, h⟩ => Option.some.inj hb ▸ h⟩

namespace Mesh

variable {m : Mesh} {d : FieldId} {source target : Option FieldId} {sel : Selection}

/-- The last of some fields that carries an id. -/
def lastOf (ps : List (Field × Nat)) (d : FieldId) : Option Placed :=
  (ps.reverse.find? fun p => p.1.id = d).map fun p => ⟨p.2, p.1⟩

/-- The last field of a mesh that carries an id. -/
def carrier? (m : Mesh) (d : FieldId) : Option Placed := lastOf m.fields.zipIdx d

/-- The field at the position of an id has a row for every vertex. -/
def Covered (m : Mesh) (d : FieldId) : Prop :=
  ∃ f, m.field d = .ok f ∧ m.vertices.length * f.components < Length.limit ∧
    f.values.length = m.vertices.length * f.components

/-- A request is granted if it is answered by the field at the position of the id, with a row for
every vertex, and if nothing is handed out without a request. -/
def Grants (m : Mesh) : Option FieldId → Option Placed → Prop
  | none, none => True
  | some d, some p =>
    p.position = d.raw ∧ m.field d = .ok p.field ∧
      p.field.values.length = m.vertices.length * p.field.components
  | _, _ => False

/-- The field at the position of an id carries it, and no later field does. -/
def Owns (m : Mesh) (d : FieldId) : Prop :=
  (∀ f, m.fields[d.raw]? = some f → f.id = d) ∧
    ∀ (j : Nat) (f : Field), m.fields[j]? = some f → f.id = d → j ≤ d.raw

theorem Numbered.owns (h : m.Numbered) (d : FieldId) : m.Owns d := by
  refine ⟨fun f hf => h d.raw f hf, fun j f hf hid => ?_⟩
  have hj : d = ⟨j⟩ := hid.symm.trans (h j f hf)
  exact Nat.le_of_eq (congrArg FieldId.raw hj).symm

/-! ## What is handed out -/

theorem lastOf_append_singleton (ps : List (Field × Nat)) (p : Field × Nat) (d : FieldId) :
    lastOf (ps ++ [p]) d = if p.1.id = d then some ⟨p.2, p.1⟩ else lastOf ps d := by
  unfold lastOf
  by_cases hid : p.1.id = d <;> simp [hid]

theorem foldl_pick (apart : ∀ d, source = some d → target ≠ some d) (ps : List (Field × Nat)) :
    ps.foldl (pick source target) ⟨none, none⟩ =
      ⟨source.bind (lastOf ps), target.bind (lastOf ps)⟩ := by
  induction ps using List.reverseRecOn with
  | nil => cases source <;> cases target <;> rfl
  | append_singleton ps p ih =>
    have hlast : ∀ (o : Option FieldId), o.bind (lastOf (ps ++ [p])) =
        if some p.1.id = o then some ⟨p.2, p.1⟩ else o.bind (lastOf ps) := by
      intro o
      cases o with
      | none => rfl
      | some d => simp [lastOf_append_singleton]
    rw [List.foldl_append, ih, List.foldl_cons, List.foldl_nil, hlast, hlast]
    unfold pick
    by_cases htarget : some p.1.id = target
    · have hsource : some p.1.id ≠ source := fun h => apart _ h.symm htarget.symm
      rw [if_pos htarget, if_pos htarget, if_neg hsource]
    · rw [if_neg htarget, if_neg htarget]
      by_cases hsource : some p.1.id = source
      · rw [if_pos hsource, if_pos hsource]
      · rw [if_neg hsource, if_neg hsource]

theorem lastOf_zipIdx_eq_some_iff {fs : List Field} {p : Placed} :
    lastOf fs.zipIdx d = some p ↔ fs[p.position]? = some p.field ∧ p.field.id = d ∧
      ∀ (j : Nat) (f : Field), fs[j]? = some f → f.id = d → j ≤ p.position := by
  induction fs using List.reverseRecOn with
  | nil => simp [lastOf]
  | append_singleton fs f ih =>
    have hlast : (fs ++ [f])[fs.length]? = some f := by simp
    have hbound : ∀ (j : Nat) (g : Field), (fs ++ [f])[j]? = some g → j ≤ fs.length := by
      intro j g hg
      have := (List.getElem?_eq_some_iff.mp hg).1
      simp only [List.length_append, List.length_singleton] at this
      omega
    have hzip : (fs ++ [f]).zipIdx = fs.zipIdx ++ [(f, fs.length)] := by simp [List.zipIdx_append]
    rw [hzip, lastOf_append_singleton]
    by_cases hid : f.id = d
    · rw [if_pos hid]
      constructor
      · intro hp
        cases hp
        exact ⟨hlast, hid, fun j g hg _ => hbound j g hg⟩
      · rintro ⟨hget, _, hlater⟩
        have hposition : p.position = fs.length :=
          Nat.le_antisymm (hbound _ _ hget) (hlater _ _ hlast hid)
        rw [hposition, hlast] at hget
        rw [Option.some.inj hget, ← hposition]
    · rw [if_neg hid, ih]
      have hinit : ∀ (j : Nat) (g : Field), g.id = d →
          ((fs ++ [f])[j]? = some g ↔ fs[j]? = some g) := by
        intro j g hg
        constructor
        · intro hget
          rcases Nat.lt_or_ge j fs.length with hj | hj
          · rwa [List.getElem?_append_left hj] at hget
          · have hj : j = fs.length := Nat.le_antisymm (hbound _ _ hget) hj
            rw [hj, hlast] at hget
            exact absurd (Option.some.inj hget ▸ hg) hid
        · intro hget
          rwa [List.getElem?_append_left (List.getElem?_eq_some_iff.mp hget).1]
      constructor
      · rintro ⟨hget, hp, hlater⟩
        exact ⟨(hinit _ _ hp).mpr hget, hp, fun j g hg hgd => hlater j g ((hinit j g hgd).mp hg) hgd⟩
      · rintro ⟨hget, hp, hlater⟩
        exact ⟨(hinit _ _ hp).mp hget, hp, fun j g hg hgd => hlater j g ((hinit j g hgd).mpr hg) hgd⟩

theorem checkCoverage_eq_ok_iff : m.checkCoverage d = .ok () ↔ m.Covered d := by
  unfold checkCoverage Covered
  cases m.field d with
  | error e => simp
  | ok f =>
    by_cases hfits : m.vertices.length * f.components < Length.limit
    · by_cases hlength : f.values.length = m.vertices.length * f.components <;>
        simp [Length.mul?_of_lt hfits, hfits, hlength]
    · simp [Length.mul?, hfits]

/-- A selection is made for distinct ids of covering fields, and it consists of the last fields
that carry them. -/
theorem select_eq_ok_iff :
    m.select source target = .ok sel ↔
      (∀ d, source = some d → m.Covered d) ∧ (∀ d, target = some d → m.Covered d) ∧
        (∀ d, source = some d → target ≠ some d) ∧
        sel = ⟨source.bind m.carrier?, target.bind m.carrier?⟩ := by
  have hpicked : (∀ d, source = some d → target ≠ some d) →
      m.picked source target = ⟨source.bind m.carrier?, target.bind m.carrier?⟩ :=
    fun apart => foldl_pick apart _
  unfold select
  rw [bind_eq_ok_iff, bind_eq_ok_iff, option_forM_eq_ok_iff, option_forM_eq_ok_iff]
  simp only [checkCoverage_eq_ok_iff]
  refine and_congr_right' (and_congr_right' ?_)
  split
  · rename_i s t
    by_cases hst : s = t
    · rw [if_pos hst]
      exact ⟨nofun, fun h => absurd (congrArg some hst.symm) (h.1 s rfl)⟩
    · have apart : ∀ d, some s = some d → some t ≠ some d := by
        rintro d hs ht
        exact hst (Option.some.inj (hs.trans ht.symm))
      rw [if_neg hst, Except.ok.injEq, hpicked apart]
      exact ⟨fun h => ⟨apart, h.symm⟩, fun h => h.2.symm⟩
  · rename_i hboth
    have apart : ∀ d, source = some d → target ≠ some d := fun d hs ht => hboth d d hs ht
    rw [Except.ok.injEq, hpicked apart]
    exact ⟨fun h => ⟨apart, h.symm⟩, fun h => h.2.symm⟩

/-- For a field that covers the mesh a request is granted exactly if its id is owned. -/
theorem grants_carrier?_iff (hd : m.Covered d) :
    m.Grants (some d) (m.carrier? d) ↔ m.Owns d := by
  obtain ⟨f, hf, _, hlength⟩ := hd
  have hget : m.fields[d.raw]? = some f := field_eq_ok_iff.mp hf
  constructor
  · intro hgrants
    cases hp : m.carrier? d with
    | none =>
      rw [hp] at hgrants
      exact hgrants.elim
    | some p =>
      rw [hp] at hgrants
      obtain ⟨hposition, _, _⟩ := hgrants
      obtain ⟨hat, hid, hlater⟩ := lastOf_zipIdx_eq_some_iff.mp hp
      rw [hposition] at hat hlater
      exact ⟨fun g hg => Option.some.inj (hat.symm.trans hg) ▸ hid, hlater⟩
  · rintro ⟨hid, hlater⟩
    have hp : m.carrier? d = some ⟨d.raw, f⟩ :=
      lastOf_zipIdx_eq_some_iff.mpr ⟨hget, hid f hget, hlater⟩
    rw [hp]
    exact ⟨rfl, hf, hlength⟩

theorem grants_bind_iff {o : Option FieldId}
    (covered : ∀ d, o = some d → m.Covered d) :
    m.Grants o (o.bind m.carrier?) ↔ ∀ d, o = some d → m.Owns d := by
  cases o with
  | none => exact ⟨fun _ _ => (nomatch ·), fun _ => trivial⟩
  | some d =>
    have hgrants : m.Grants (some d) (m.carrier? d) ↔ m.Owns d :=
      grants_carrier?_iff (covered d rfl)
    simpa using hgrants

end Mesh

namespace Edit

/-- Whatever a run of edits did to the fields, a selection that is made grants a request exactly
if the id asked for is owned. It grants every request as long as fields were only replaced by
fields of the same id. -/
theorem requests_granted_of_run {name : String} {dimensions : Nat} {start : Mesh}
    (created : Mesh.new? name dimensions = .ok start) {es : List Edit}
    {source target : Option FieldId} {sel : Selection}
    (selected : (run start es).select source target = .ok sel) :
    ((run start es).Grants source sel.source ↔
        ∀ d, source = some d → (run start es).Owns d) ∧
      ((run start es).Grants target sel.target ↔
        ∀ d, target = some d → (run start es).Owns d) ∧
      ((∀ e ∈ es, e.keepsIds = true) →
        (run start es).Grants source sel.source ∧ (run start es).Grants target sel.target) := by
  obtain ⟨hsource, htarget, _, rfl⟩ := Mesh.select_eq_ok_iff.mp selected
  have granted_source := Mesh.grants_bind_iff hsource
  have granted_target := Mesh.grants_bind_iff htarget
  refine ⟨granted_source, granted_target, fun keeps => ?_⟩
  have numbered : (run start es).Numbered := by
    obtain ⟨_, rfl⟩ := Mesh.new_eq_ok_iff.mp created
    have empty : Mesh.Numbered ⟨name, dimensions, [], ∅, 0, [], [], [], []⟩ :=
      fun _ _ h => nomatch h
    exact empty.run keeps
  exact ⟨granted_source.mpr fun d _ => numbered.owns d,
    granted_target.mpr fun d _ => numbered.owns d⟩

def pairRun : List Edit :=
  [.createVertex [0.0, 0.0], .createVertex [1.0, 0.0], .createEdge ⟨0⟩ ⟨1⟩, .createField "A" 1,
    .createField "B" 1, .allocate]

theorem requests_granted_of_run_pairRun :
    Mesh.new? "M" 2 = .ok (.plane "M") ∧
      ∃ sel, (run (.plane "M") pairRun).select (some ⟨0⟩) (some ⟨1⟩) = .ok sel ∧
        (run (.plane "M") pairRun).Grants (some ⟨0⟩) sel.source ∧
          (run (.plane "M") pairRun).Grants (some ⟨1⟩) sel.target := by
  refine ⟨rfl, ⟨some ⟨0, ⟨⟨0⟩, "A", 1, [0.0, 0.0], true⟩⟩,
    some ⟨1, ⟨⟨1⟩, "B", 1, [0.0, 0.0], true⟩⟩⟩, rfl, ?_⟩
  have keeps : ∀ e ∈ pairRun, e.keepsIds = true := by decide
  exact (requests_granted_of_run
    (Mesh.new_plane "M") rfl).2.2 keeps

def foreignRun : List Edit :=
  [.createVertex [0.0, 0.0], .createVertex [1.0, 0.0], .createField "X" 1, .allocate]

/-- A field of another mesh is put in the last place. It keeps its own id, which is that of the
first place: the first place gets its requests answered by the last one, and an action on the
last place finds no field, changes nothing and reports no error. -/
theorem requests_misled_by_foreign_field :
    ∃ f, Mesh.new? "O" 2 = .ok (.plane "O") ∧
      (run (.plane "O") foreignRun).field ⟨0⟩ = .ok f ∧
      Mesh.new? "M" 2 = .ok (.plane "M") ∧
      let m := run (.plane "M") (pairRun ++ [.putField ⟨1⟩ f])
      m.field ⟨1⟩ = .ok f ∧
        m.select none (some ⟨0⟩) = .ok ⟨none, some ⟨1, f⟩⟩ ∧
        ¬ m.Grants (some ⟨0⟩) (some ⟨1, f⟩) ∧
        m.select none (some ⟨1⟩) = .ok ⟨none, none⟩ ∧ ¬ m.Grants (some ⟨1⟩) none ∧
        m.scaleByArea ⟨1⟩ .multiplyingByArea = .ok (m, []) := by
  refine ⟨⟨⟨0⟩, "X", 1, [0.0, 0.0], true⟩, rfl, rfl, rfl, rfl, rfl, ?_, rfl, id, rfl⟩
  rintro ⟨hposition, _, _⟩
  exact absurd hposition (by decide)

end Edit

end FieldMesh

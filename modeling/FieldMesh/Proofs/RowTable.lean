import FieldMesh.Proofs.Rows
import FieldMesh.Proofs.Sound

/-! # Rows by id

A row table says for every field and every vertex which row the vertex has in the field. It is
kept by ids and knows no positions. Every edit has an effect on the table, and along a run the
fields of the mesh hold the rows of the table, wherever their vertices have moved.
-/

namespace FieldMesh

/-- Which row a vertex has in a field. -/
abbrev RowTable := FieldId → VertexId → Option (List Float)

namespace Edit

/-- Whether the edit leaves fields in place and writes at most the row of one slot. -/
def writesByRow : Edit → Bool
  | setValues .. => false
  | putField .. => false
  | _ => true

def FittingByRow (m : Mesh) (e : Edit) : Prop := Fitting m e ∧ e.writesByRow = true

instance (m : Mesh) (e : Edit) : Decidable (FittingByRow m e) :=
  inferInstanceAs (Decidable (_ ∧ _))

end Edit

/-- The values of a field at the slot of a vertex are the given row. -/
def Mesh.Reads (m : Mesh) (d : FieldId) (v : VertexId) (row : List Float) : Prop :=
  ∃ f slot, m.field d = .ok f ∧ m.slot? v = some slot ∧ f.row slot = .ok (some row)

namespace RowTable

def empty : RowTable := fun _ _ => none

/-- The table after an edit that took place: a new vertex gets a zero row in every allocated
field, a removed one loses its rows, an allocation gives a zero row to every vertex without one,
and a write changes the front of one row. -/
def effect (t : RowTable) (m : Mesh) : Edit → RowTable
  | .createVertex _ => fun d v =>
    if v = ⟨m.nextId⟩ then m.fields[d.raw]?.bind Field.newRow? else t d v
  | .removeVertex v => fun d w => if w = v then none else t d w
  | .allocate => fun d v =>
    if m.isLive v then (t d v).or (m.fields[d.raw]?.map Field.zeroRow) else t d v
  | .setRow d slot xs => fun d' v =>
    if d' = d ∧ m.slot? v = some slot then (t d' v).map (overwrite · xs) else t d' v
  | _ => t

/-- The table after an edit; a refused edit has no effect. -/
def step (t : RowTable) (m : Mesh) (e : Edit) : RowTable :=
  match (e.apply m).answer with
  | .ok () => t.effect m e
  | .error _ => t

def follow (t : RowTable) (m : Mesh) : List Edit → RowTable
  | [] => t
  | e :: es => (t.step m e).follow (e.apply m).mesh es

/-- Every field of the mesh holds the rows of the table. -/
structure Represents (t : RowTable) (m : Mesh) : Prop where
  holds : ∀ (d : FieldId) (f : Field), m.fields[d.raw]? = some f → f.Holds m.ids (t d)
  undeclared : ∀ d : FieldId, m.fields[d.raw]? = none → ∀ v, t d v = none

/-- An edit leaves the row of a vertex unless it removes the vertex or writes this row. -/
theorem step_eq_of_kept {t : RowTable} {m : Mesh} (h : m.Indexed) {e : Edit} {d : FieldId}
    {v : VertexId} {row : List Float} (hv : v ∈ m.ids) (hrow : t d v = some row)
    (hremove : e ≠ .removeVertex v)
    (hwrite : ∀ slot xs, e = .setRow d slot xs → m.slot? v ≠ some slot) :
    t.step m e d v = some row := by
  unfold step
  cases (e.apply m).answer with
  | error x => exact hrow
  | ok u =>
    cases e with
    | createVertex cs =>
      have hne : v ≠ ⟨m.nextId⟩ := fun heq => h.next_not_mem (heq ▸ hv)
      exact (if_neg hne).trans hrow
    | removeVertex w =>
      have hne : v ≠ w := fun heq => hremove (heq ▸ rfl)
      exact (if_neg hne).trans hrow
    | allocate =>
      refine (if_pos (h.isLive_iff.mpr hv)).trans ?_
      rw [hrow]
      rfl
    | setRow d' slot xs =>
      have hne : ¬ (d = d' ∧ m.slot? v = some slot) := by
        rintro ⟨rfl, hslot⟩
        exact hwrite slot xs rfl hslot
      exact (if_neg hne).trans hrow
    | _ => exact hrow

namespace Represents

variable {t : RowTable} {m : Mesh}

theorem of_new {name : String} {dimensions : Nat} (h : Mesh.new? name dimensions = .ok m) :
    empty.Represents m := by
  obtain ⟨_, rfl⟩ := Mesh.new_eq_ok_iff.mp h
  exact ⟨fun _ _ hf => by simp at hf, fun _ _ _ => rfl⟩

theorem of_same_rows (h : t.Represents m) {n : Mesh} (hfields : n.fields = m.fields)
    (hids : n.ids = m.ids) : t.Represents n :=
  ⟨fun d f hf => hids ▸ h.holds d f (hfields ▸ hf), fun d hd => h.undeclared d (hfields ▸ hd)⟩

/-- The fields of the new mesh are edited one by one, and each holds the new rows. -/
theorem of_map (h : t.Represents m) {n : Mesh} {u : RowTable} {g : Field → Field}
    (hfields : n.fields = m.fields.map g)
    (hholds : ∀ d f, m.fields[d.raw]? = some f → (g f).Holds n.ids (u d))
    (hundeclared : ∀ d, m.fields[d.raw]? = none → (∀ v, t d v = none) → ∀ v, u d v = none) :
    u.Represents n := by
  refine ⟨fun d f hf => ?_, fun d hd => ?_⟩
  · rw [hfields, List.getElem?_map] at hf
    obtain ⟨old, hold, rfl⟩ := Option.map_eq_some_iff.mp hf
    exact hholds d old hold
  · rw [hfields, List.getElem?_map, Option.map_eq_none_iff] at hd
    exact hundeclared d hd (h.undeclared d hd)

theorem createVertex (h : t.Represents m) (hm : m.Sound) (cs : List Float) (c : Coords) :
    (t.effect m (.createVertex cs)).Represents (m.withVertex c) := by
  refine h.of_map rfl (fun d f hf => ?_) fun d hd hnone v => ?_
  · have hcovers := hm.covers_ids (List.mem_of_getElem? hf)
    have hgrown := (h.holds d f hf).extended hcovers hm.next_not_mem
    rw [Mesh.length_ids] at hgrown
    change (f.extended _).Holds (m.grown c).ids (fun v => if v = _ then _ else _)
    rw [Mesh.ids_grown, hf]
    exact hgrown
  · change (if v = _ then m.fields[d.raw]?.bind Field.newRow? else t d v) = none
    rw [hd, hnone v]
    exact ite_self none

theorem removeVertex (h : t.Represents m) (hm : m.Sound) {v : VertexId} {slot : Nat}
    (hs : m.slots[v]? = some slot) :
    (t.effect m (.removeVertex v)).Represents (m.withoutVertex v slot) := by
  refine h.of_map rfl (fun d f hf => ?_) fun d hd hnone w => ?_
  · have hcovers := hm.covers_ids (List.mem_of_getElem? hf)
    have hids : (m.withoutVertex v slot).ids = m.ids.filter (· ≠ v) := hm.ids_pruned hs
    rw [hids]
    exact (h.holds d f hf).cut hcovers hm.nodup_ids ((hm.slot_iff v slot).mp hs)
  · change (if w = v then none else t d w) = none
    rw [hnone w]
    exact ite_self none

theorem allocate (h : t.Represents m) (hm : m.Sound) :
    (t.effect m .allocate).Represents m.withRows := by
  refine h.of_map rfl (fun d f hf => ?_) fun d hd hnone v => ?_
  · have hcovers := hm.covers_ids (List.mem_of_getElem? hf)
    have hsized := (h.holds d f hf).sized hcovers
    rw [Mesh.length_ids] at hsized
    have hrows : t.effect m .allocate d =
        fun v => if v ∈ m.ids then (t d v).or (some f.zeroRow) else t d v := by
      funext v
      simp only [effect, hm.isLive_iff, hf, Option.map_some]
    rw [hrows]
    exact hsized
  · change (if m.isLive v then (t d v).or (m.fields[d.raw]?.map Field.zeroRow) else t d v) = none
    rw [hd, hnone v]
    exact ite_self none

theorem createField (h : t.Represents m) (name : String) (n : Nat) :
    t.Represents (m.withField name n) := by
  refine ⟨fun d f hf => ?_, fun d hd => ?_⟩
  · change (m.fields ++ [_])[d.raw]? = some f at hf
    rcases Nat.lt_or_ge d.raw m.fields.length with hlt | hge
    · rw [List.getElem?_append_left hlt] at hf
      exact h.holds d f hf
    · have hnone := h.undeclared d (List.getElem?_eq_none hge)
      rw [List.getElem?_append_right hge, List.getElem?_singleton] at hf
      split at hf
      · rw [← Option.some.inj hf]
        exact Field.Holds.declare _ _ _ hnone
      · exact nomatch hf
  · change (m.fields ++ [_])[d.raw]? = none at hd
    rw [List.getElem?_eq_none_iff, List.length_append] at hd
    exact h.undeclared d (List.getElem?_eq_none (by omega))

theorem setRow (h : t.Represents m) (hm : m.Sound) {d : FieldId} {slot : Nat} {f : Field}
    (hd : m.fields[d.raw]? = some f) (xs : List Float)
    (hrow : slot * f.components + f.components ≤ f.values.length) :
    (t.effect m (.setRow d slot xs)).Represents
      (m.setFieldValues d.raw (f.writeRow slot xs).values) := by
  have hcovers := hm.fields_cover f (List.mem_of_getElem? hd)
  have hpos := hcovers.components_pos
  have ha : f.allocated = true := by
    refine (Bool.eq_false_or_eq_true f.allocated).resolve_right fun ha => ?_
    rw [hcovers.values_of_unallocated ha, List.length_nil] at hrow
    omega
  have hlt : slot < m.ids.length := by
    rw [hcovers.length_of_allocated ha, ← Nat.succ_mul] at hrow
    rw [Mesh.length_ids]
    exact Nat.le_of_mul_le_mul_right hrow hpos
  obtain ⟨v, hv⟩ : ∃ v, m.ids[slot]? = some v := ⟨_, List.getElem?_eq_getElem hlt⟩
  have hslot : ∀ w, m.slot? w = some slot ↔ w = v := by
    intro w
    rw [Mesh.slot?, hm.slot_iff, hv, Option.some.injEq]
    exact eq_comm
  refine ⟨fun d' g hg => ?_, fun d' hd' w => ?_⟩
  · rw [Mesh.getElem?_setFieldValues] at hg
    obtain ⟨old, hold, rfl⟩ := Option.map_eq_some_iff.mp hg
    by_cases hdd : d' = d
    · subst hdd
      rw [hd] at hold
      cases hold
      have hrows : t.effect m (.setRow d' slot xs) d' =
          fun w => if w = v then (t d' w).map (overwrite · xs) else t d' w := by
        funext w
        simp only [effect, hslot, true_and]
      rw [if_pos rfl, hrows]
      exact (h.holds d' f hd).writeRow ha hm.nodup_ids hv xs
    · have hraw : ¬ d.raw = d'.raw := fun hraw => hdd (congrArg FieldId.mk hraw.symm)
      have hrows : t.effect m (.setRow d slot xs) d' = t d' := by
        funext w
        exact if_neg fun hw => hdd hw.1
      rw [if_neg hraw, hrows]
      exact h.holds d' old hold
  · rw [Mesh.getElem?_setFieldValues, Option.map_eq_none_iff] at hd'
    change (if d' = d ∧ m.slot? w = some slot then (t d' w).map _ else t d' w) = none
    rw [h.undeclared d' hd' w]
    exact ite_self none

theorem noRow (h : t.Represents m) (hm : m.Sound) {d : FieldId} {slot : Nat} {xs : List Float}
    {f : Field} (hd : m.fields[d.raw]? = some f) (hrow : f.setRow slot xs = .ok none) :
    (t.effect m (.setRow d slot xs)).Represents m := by
  have hcovers := hm.fields_cover f (List.mem_of_getElem? hd)
  have hrows : t.effect m (.setRow d slot xs) = t := by
    funext d' v
    by_cases hw : d' = d ∧ m.slot? v = some slot
    · obtain ⟨rfl, hv⟩ := hw
      refine (if_pos ⟨rfl, hv⟩).trans ?_
      have ha : f.allocated = false := by
        refine (Bool.eq_false_or_eq_true f.allocated).resolve_left fun ha => ?_
        have hlt := hm.slot_lt hv
        rw [Field.setRow, Field.rowStart_of_le (hcovers.row_le ha hlt) hcovers.stored] at hrow
        exact nomatch hrow
      rw [((h.holds d' f hd).unallocated ha).2 v]
      rfl
    · exact if_neg hw
  rw [hrows]
  exact h

theorem effect (h : t.Represents m) (hm : m.Sound) {e : Edit} (hrow : e.writesByRow = true)
    {n : Mesh} (he : e.Effect m n) : (t.effect m e).Represents n := by
  cases he with
  | createVertex _ _ => exact h.createVertex hm _ _
  | moveVertex _ _ => exact h.of_same_rows rfl (m.ids_withCoords _ _)
  | removeVertex hs => exact h.removeVertex hm hs
  | createEdge _ => exact h.of_same_rows rfl rfl
  | createTriangle _ => exact h.of_same_rows rfl rfl
  | createField _ _ => exact h.createField _ _
  | allocate _ => exact h.allocate hm
  | createGroup _ _ => exact h.of_same_rows rfl rfl
  | setValues _ => exact nomatch hrow
  | setRow hd hlong => exact h.setRow hm (Mesh.field_eq_ok_iff.mp hd) _ hlong
  | noRow hd hnone => exact h.noRow hm (Mesh.field_eq_ok_iff.mp hd) hnone

theorem step (h : t.Represents m) (hm : m.Sound) {e : Edit} (he : e.FittingByRow m) :
    (t.step m e).Represents (e.apply m).mesh := by
  cases hm.settles he.1 with
  | refused heq =>
    rw [RowTable.step, heq]
    exact h
  | stopped _ heq =>
    rw [RowTable.step, heq]
    exact h
  | succeeded heffect heq =>
    rw [RowTable.step, heq]
    exact h.effect hm he.2 heffect

theorem run (h : t.Represents m) (hm : m.Sound) {es : List Edit}
    (calls : Edit.Along Edit.FittingByRow m es) :
    (t.follow m es).Represents (Edit.run m es) := by
  induction es generalizing t m with
  | nil => exact h
  | cons e es ih =>
    exact ih (h.step hm calls.1) (hm.apply calls.1.1).1 calls.2

theorem reads (h : t.Represents m) (hm : m.Sound) {d : FieldId} {f : Field}
    (hd : m.field d = .ok f) (ha : f.allocated = true) {v : VertexId} (hv : v ∈ m.ids) :
    ∃ row, t d v = some row ∧ m.Reads d v row := by
  have hf : m.fields[d.raw]? = some f := Mesh.field_eq_ok_iff.mp hd
  have hcovers := hm.covers_ids (List.mem_of_getElem? hf)
  obtain ⟨slot, hslot⟩ := hm.mem_ids_iff.mp hv
  obtain ⟨row, hrow, hread⟩ := (h.holds d f hf).row_eq hcovers ha ((hm.slot_iff v slot).mp hslot)
  exact ⟨row, hrow, f, slot, hd, hslot, hread⟩

/-- Only live vertices have rows, and only in allocated fields. -/
theorem live_of_row (h : t.Represents m) {d : FieldId} {v : VertexId} {row : List Float}
    (hrow : t d v = some row) :
    v ∈ m.ids ∧ ∃ f, m.field d = .ok f ∧ f.allocated = true := by
  cases hd : m.fields[d.raw]? with
  | none =>
    rw [h.undeclared d hd v] at hrow
    exact nomatch hrow
  | some f =>
    have hholds := h.holds d f hd
    refine ⟨?_, f, Mesh.field_eq_ok_iff.mpr hd, ?_⟩
    · by_contra hv
      rw [hholds.forgotten v hv] at hrow
      exact nomatch hrow
    · refine (Bool.eq_false_or_eq_true f.allocated).resolve_right fun ha => ?_
      rw [(hholds.unallocated ha).2 v] at hrow
      exact nomatch hrow

theorem row_of_reads (h : t.Represents m) (hm : m.Sound) {d : FieldId} {v : VertexId}
    {row : List Float} (hread : m.Reads d v row) : t d v = some row := by
  obtain ⟨f, slot, hd, hslot, hrow⟩ := hread
  have hf : m.fields[d.raw]? = some f := Mesh.field_eq_ok_iff.mp hd
  have hv : v ∈ m.ids := hm.mem_ids_iff.mpr ⟨slot, hslot⟩
  have hcovers := hm.fields_cover f (List.mem_of_getElem? hf)
  cases ha : f.allocated with
  | false =>
    -- Without values no slot has a row.
    exfalso
    have hlong := Field.row_le_of_row_eq hrow
    have hpos := hcovers.components_pos
    rw [hcovers.values_of_unallocated ha, List.length_nil] at hlong
    omega
  | true =>
    obtain ⟨row', hrow', f', slot', hd', hslot', hread'⟩ := h.reads hm hd ha hv
    rw [hd] at hd'
    cases hd'
    rw [Mesh.slot?] at hslot hslot'
    rw [hslot] at hslot'
    cases hslot'
    rw [hrow] at hread'
    cases hread'
    exact hrow'

end Represents

end RowTable

namespace Edit

/-- Along every run each vertex reads at its slot the row that the table keeps under its id, the
values of a field are these rows in the order of the vertices, and no call touches the row of a
vertex that it neither removes nor writes. -/
theorem rows_follow_ids {name : String} {dimensions : Nat} {m : Mesh}
    (created : Mesh.new? name dimensions = .ok m) {es : List Edit}
    (calls : Along FittingByRow m es) :
    (∀ d f, (run m es).field d = .ok f → f.allocated = true →
      (∀ v ∈ (run m es).ids, ∃ row,
        RowTable.empty.follow m es d v = some row ∧ (run m es).Reads d v row) ∧
      f.values = (run m es).ids.flatMap fun v => (RowTable.empty.follow m es d v).getD []) ∧
    (∀ d f, (run m es).field d = .ok f → f.allocated = false → f.values = []) ∧
    (∀ d v row, RowTable.empty.follow m es d v = some row →
      v ∈ (run m es).ids ∧ ∃ f, (run m es).field d = .ok f ∧ f.allocated = true) ∧
    ∀ e d v row, FittingByRow (run m es) e → (run m es).Reads d v row → e ≠ .removeVertex v →
      (∀ slot xs, e = .setRow d slot xs → (run m es).slot? v ≠ some slot) →
      (e.apply (run m es)).mesh.Reads d v row := by
  have hsound : (run m es).Sound := by
    refine Mesh.Sound.run (Mesh.Sound.of_new created) ?_
    exact calls.mono_of_invariant (I := fun _ => True) (fun _ _ _ _ => trivial)
      (fun _ _ _ he => he.1) trivial
  have hrows : (RowTable.empty.follow m es).Represents (run m es) :=
    (RowTable.Represents.of_new created).run (Mesh.Sound.of_new created) calls
  refine ⟨fun d f hd ha => ⟨fun v hv => hrows.reads hsound hd ha hv, ?_⟩, fun d f hd ha => ?_,
    fun d v row hrow => hrows.live_of_row hrow, ?_⟩
  · exact (hrows.holds d f (Mesh.field_eq_ok_iff.mp hd)).values_eq ha
  · exact ((hrows.holds d f (Mesh.field_eq_ok_iff.mp hd)).unallocated ha).1
  · intro e d v row he hread hremove hwrite
    have hlive := hrows.live_of_row (hrows.row_of_reads hsound hread)
    have hkept := RowTable.step_eq_of_kept hsound.toIndexed hlive.1
      (hrows.row_of_reads hsound hread) hremove hwrite
    have hnext := hrows.step hsound he
    obtain ⟨hv, f, hf, ha⟩ := hnext.live_of_row hkept
    obtain ⟨row', hrow', hread'⟩ := hnext.reads (hsound.apply he.1).1 hf ha hv
    rw [hkept] at hrow'
    cases hrow'
    exact hread'

theorem rows_follow_ids_mixedRun :
    Along FittingByRow (.plane "M") mixedRun ∧
      (run (.plane "M") mixedRun).Reads ⟨0⟩ ⟨2⟩ [5.0] := by
  have calls : Along FittingByRow (.plane "M") mixedRun := by decide +kernel
  have hrows := rows_follow_ids (Mesh.new_plane "M") calls
  obtain ⟨row, hrow, hread⟩ := (hrows.1 ⟨0⟩ _ rfl rfl).1 ⟨2⟩ (by decide +kernel)
  have hfive : RowTable.empty.follow (.plane "M") mixedRun ⟨0⟩ ⟨2⟩ = some [5.0] := rfl
  rw [hfive] at hrow
  cases hrow
  exact ⟨calls, hread⟩

end Edit

end FieldMesh

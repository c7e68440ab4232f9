import FieldMesh.Proofs.Requests

/-! # Fields too wide for the mesh

A field is declared with any number of components, and nothing is stored for it before values are
allocated. Offsets into it are computed all the same: a removal asks every field where the row of
the slot would end, and a request asks for the length of all rows. A field that is so wide that
these are no lengths stops both, although it has no values. Fields that have been allocated never
do, since their rows are stored.
-/

namespace FieldMesh

namespace Field

variable {f : Field} {slot n : Nat}

/-- The row of a slot would end beyond the range of lengths. -/
def Overruns (f : Field) (slot : Nat) : Prop := Length.limit ≤ slot * f.components + f.components

instance (f : Field) (slot : Nat) : Decidable (f.Overruns slot) :=
  inferInstanceAs (Decidable (Length.limit ≤ _))

theorem Covers.unallocated_of_limit_le (h : f.Covers n) (hn : Length.limit ≤ n * f.components) :
    f.allocated = false := by
  have hcap := Length.capacity_lt_limit
  have hstored := h.stored
  cases ha : f.allocated with
  | false => rfl
  | true =>
    have hlength := h.length_of_allocated ha
    omega

theorem Covers.unallocated_of_overruns (h : f.Covers n) (hs : slot < n) (hf : f.Overruns slot) :
    f.allocated = false :=
  h.unallocated_of_limit_le (Nat.le_trans hf (row_end_le hs _))

/-- The first field that stops an edit leaves those before it edited, and none behind it. -/
theorem editEach_append_cons {edit : Field → Except Fault Field} {g : Field → Field}
    {done rest : List Field} {k : Fault} (hdone : ∀ x ∈ done, edit x = .ok (g x))
    (hf : edit f = .error k) :
    editEach edit (done ++ f :: rest) = (some k, done.map g ++ f :: rest) := by
  induction done with
  | nil => simp [editEach, hf]
  | cons x done ih =>
    rw [List.forall_mem_cons] at hdone
    simp [editEach, hdone.1, ih hdone.2]

end Field

namespace Mesh

variable {m : Mesh}

/-- A removal that a field stops is left half done: the vertex and its elements are gone, and so
are its rows in the fields before; the other fields and the groups still count it. -/
theorem removeVertex_of_overruns {v : VertexId} {slot : Nat} {done rest : List Field} {f : Field}
    (hs : m.slots[v]? = some slot) (hfields : m.fields = done ++ f :: rest)
    (hdone : ∀ g ∈ done, ¬ g.Overruns slot) (hf : f.Overruns slot) :
    m.removeVertex v = ⟨.error (.fault .overflow), { m.pruned v slot with
      fields := done.map (·.cut slot) ++ f :: rest }⟩ := by
  have hcut : ∀ g ∈ done, g.removeSlot slot = .ok (g.cut slot) := fun g hg =>
    Field.removeSlot_of_fits (Nat.not_le.mp (hdone g hg))
  have hstop : f.removeSlot slot = .error .overflow :=
    Field.removeSlot_of_not_fits (Nat.not_lt.mpr hf)
  have hpruned : (m.pruned v slot).fields = done ++ f :: rest := hfields
  rw [removeVertex_of_slot hs]
  simp only [editFields, hpruned, Field.editEach_append_cons hcut hstop]

theorem checkCoverage_eq_fault_iff {d : FieldId} {k : Fault} :
    m.checkCoverage d = .error (.fault k) ↔ k = .overflow ∧
      ∃ f, m.field d = .ok f ∧ Length.limit ≤ m.vertices.length * f.components := by
  unfold checkCoverage
  cases m.field d with
  | error e => simp
  | ok f =>
    by_cases hfits : m.vertices.length * f.components < Length.limit
    · by_cases hlength : f.values.length = m.vertices.length * f.components <;>
        simp [Length.mul?_of_lt hfits, hlength, hfits]
    · have hnone : Length.mul? m.vertices.length f.components = none := if_neg hfits
      simp [hnone, Nat.not_lt.mp hfits, eq_comm]

/-- A request is stopped at its source, or at its target once the source is known to cover the
mesh. -/
theorem select_eq_fault_iff {source target : Option FieldId} {k : Fault} :
    m.select source target = .error (.fault k) ↔
      (∃ s, source = some s ∧ m.checkCoverage s = .error (.fault k)) ∨
        (∀ s, source = some s → m.Covered s) ∧
          ∃ t, target = some t ∧ m.checkCoverage t = .error (.fault k) := by
  unfold select
  rw [bind_eq_error_iff, bind_eq_error_iff, option_forM_eq_ok_iff, option_forM_eq_error_iff,
    option_forM_eq_error_iff]
  simp only [checkCoverage_eq_ok_iff]
  refine or_congr_right (and_congr_right fun _ => or_iff_left ?_)
  rintro ⟨_, hchosen⟩
  split at hchosen
  · split at hchosen <;> exact nomatch hchosen
  · exact nomatch hchosen

/-- The field at the position of an id has no values, and it is so wide that a row for every vertex
would be more of them than can be counted. -/
def TooWide (m : Mesh) (d : FieldId) : Prop :=
  ∃ f, m.field d = .ok f ∧ f.allocated = false ∧
    Length.limit ≤ m.vertices.length * f.components

theorem Filled.checkCoverage_eq_fault_iff (h : m.Filled) {d : FieldId} {k : Fault} :
    m.checkCoverage d = .error (.fault k) ↔ k = .overflow ∧ m.TooWide d := by
  rw [Mesh.checkCoverage_eq_fault_iff]
  refine and_congr_right fun _ => exists_congr fun f => and_congr_right fun hd => ?_
  have hcovers := h.fields_cover f (List.mem_of_getElem? (field_eq_ok_iff.mp hd))
  exact ⟨fun hlimit => ⟨hcovers.unallocated_of_limit_le hlimit, hlimit⟩, fun hwide => hwide.2⟩

end Mesh

namespace Edit

/-- After any run whose own lengths were in range, with fields declared as wide as can be, a live
vertex is removed completely and a request gets an answer, unless a field that has no values is too
wide. Then the removal stops where it comes to the first such field, which the groups and the
fields behind it have not heard of; and a request stops if it comes to one. No request is granted
for a field without a row for every vertex. -/
theorem oversized_of_run {name : String} {dimensions : Nat} {start : Mesh}
    (created : Mesh.new? name dimensions = .ok start) {es : List Edit}
    (calls : Along Affordable start es) :
    let m := run start es
    (∀ v slot, m.slots[v]? = some slot →
      ((∀ f ∈ m.fields, ¬ f.Overruns slot) ∧
          m.removeVertex v = ⟨.ok (), m.withoutVertex v slot⟩) ∨
        ∃ done f rest, m.fields = done ++ f :: rest ∧ (∀ g ∈ done, ¬ g.Overruns slot) ∧
          f.Overruns slot ∧ f.allocated = false ∧
          m.removeVertex v = ⟨.error (.fault .overflow), { m.pruned v slot with
            fields := done.map (·.cut slot) ++ f :: rest }⟩) ∧
    ∀ source target,
      (∀ sel, m.select source target = .ok sel →
        ∀ d, source = some d ∨ target = some d → m.Covered d) ∧
      ∀ k, m.select source target = .error (.fault k) ↔ k = .overflow ∧
        ((∃ s, source = some s ∧ m.TooWide s) ∨
          (∀ s, source = some s → m.Covered s) ∧ ∃ t, target = some t ∧ m.TooWide t) := by
  intro m
  have sound : m.Sound := (Mesh.Sound.of_new created).run_of_affordable calls
  refine ⟨fun v slot hs => ?_, fun source target => ⟨fun sel hsel d hd => ?_, fun k => ?_⟩⟩
  · by_cases hover : ∃ f ∈ m.fields, f.Overruns slot
    · obtain ⟨done, f, rest, hfields, hf, hdone⟩ := exists_first hover
      have hcovers : f.Covers m.vertices.length := sound.fields_cover f (by simp [hfields])
      exact .inr ⟨done, f, rest, hfields, hdone, hf,
        hcovers.unallocated_of_overruns (sound.slot_lt hs) hf,
        Mesh.removeVertex_of_overruns hs hfields hdone hf⟩
    · have hfits : ∀ f ∈ m.fields, ¬ f.Overruns slot := fun f hf hf' => hover ⟨f, hf, hf'⟩
      refine .inl ⟨hfits, sound.removeVertex_eq hs fun slot' hs' f hf => ?_⟩
      rw [hs] at hs'
      cases hs'
      exact Nat.not_le.mp (hfits f hf)
  · obtain ⟨hsource, htarget, _⟩ := Mesh.select_eq_ok_iff.mp hsel
    exact hd.elim (hsource d) (htarget d)
  · rw [Mesh.select_eq_fault_iff]
    simp only [sound.checkCoverage_eq_fault_iff]
    constructor
    · rintro (⟨s, hs, rfl, hwide⟩ | ⟨hcovered, t, ht, rfl, hwide⟩)
      · exact ⟨rfl, .inl ⟨s, hs, hwide⟩⟩
      · exact ⟨rfl, .inr ⟨hcovered, t, ht, hwide⟩⟩
    · rintro ⟨rfl, ⟨s, hs, hwide⟩ | ⟨hcovered, t, ht, hwide⟩⟩
      · exact .inl ⟨s, hs, rfl, hwide⟩
      · exact .inr ⟨hcovered, t, ht, rfl, hwide⟩

def wideRun : List Edit :=
  [.createVertex [0.0, 0.0], .createVertex [1.0, 0.0], .createField "T" 0x8000000000000000,
    .createGroup "G" [⟨0⟩, ⟨1⟩]]

/-- The first vertex goes. -/
theorem oversized_of_run_wideRun :
    Mesh.new? "M" 2 = .ok (.plane "M") ∧ Along Affordable (.plane "M") wideRun ∧
      (run (.plane "M") wideRun).removeVertex ⟨0⟩ =
        ⟨.ok (), (run (.plane "M") wideRun).withoutVertex ⟨0⟩ 0⟩ := by
  have calls : Along Affordable (.plane "M") wideRun := by decide +kernel
  have hs : (run (.plane "M") wideRun).slots[(⟨0⟩ : VertexId)]? = some 0 := by decide +kernel
  have hfits : ∀ f ∈ (run (.plane "M") wideRun).fields, ¬ f.Overruns 0 := by decide +kernel
  refine ⟨rfl, calls, ?_⟩
  rcases (oversized_of_run (Mesh.new_plane "M") calls).1 ⟨0⟩ 0 hs with
    ⟨_, heq⟩ | ⟨done, f, rest, hfields, _, hf, _⟩
  · exact heq
  · exact absurd hf (hfits f (hfields ▸ List.mem_append_right _ List.mem_cons_self))

/-- The second vertex goes as well, but its removal stops half way: the group still lists it. A
request for the field stops, too. -/
theorem removal_stops_at_wide_field :
    let m := run (.plane "M") wideRun
    let left := (m.removeVertex ⟨1⟩).mesh
    Along Affordable (.plane "M") wideRun ∧ m.isLive ⟨1⟩ = true ∧
      (m.removeVertex ⟨1⟩).fault? = some .overflow ∧ left.isLive ⟨1⟩ = false ∧
      left.groups.map (·.selection) = [[⟨0⟩, ⟨1⟩]] ∧
      m.select none (some ⟨0⟩) = .error (.fault .overflow) := by
  exact ⟨by decide +kernel, by decide +kernel, by decide +kernel, by decide +kernel, rfl, rfl⟩

end Edit

end FieldMesh

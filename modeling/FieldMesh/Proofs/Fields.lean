import FieldMesh.Mesh.Edit

/-! # Sizes of fields

Sizing a field and cutting a row out of it are total functions behind checks of the lengths
they need: `sized` and `cut` are what is left of them once the checks pass. A field covers a
number of vertices if it holds one row for each of them, or nothing as long as it has not been
allocated.
-/

namespace FieldMesh

namespace Field

/-- The field with a row for each of `n` vertices: kept values stay and new ones are zero. -/
def sized (f : Field) (n : Nat) : Field :=
  { f with
    values := f.values.take (n * f.components) ++
      List.replicate (n * f.components - f.values.length) 0.0
    allocated := true }

/-- The field without the row of a slot, if the values reach to its end. -/
def cut (f : Field) (slot : Nat) : Field :=
  if slot * f.components + f.components ≤ f.values.length then
    { f with values :=
        f.values.take (slot * f.components) ++
          f.values.drop (slot * f.components + f.components) }
  else f

def writeRow (f : Field) (slot : Nat) (new : List Float) : Field :=
  { f with values :=
      f.values.take (slot * f.components) ++
        overwrite ((f.values.drop (slot * f.components)).take f.components) new ++
          f.values.drop (slot * f.components + f.components) }

theorem resize_eq_ok_iff {f g : Field} {n : Nat} :
    f.resize n = .ok g ↔ n * f.components ≤ Length.capacity ∧ g = f.sized n := by
  have hcap := Length.capacity_lt_limit
  unfold resize Length.mul?
  by_cases hlimit : n * f.components < Length.limit
  · rw [if_pos hlimit]
    dsimp only
    by_cases hstored : Length.capacity < n * f.components
    · rw [if_pos hstored]
      exact ⟨(nomatch ·), fun h => absurd h.1 (Nat.not_le.mpr hstored)⟩
    · rw [if_neg hstored, Except.ok.injEq]
      exact ⟨fun h => ⟨Nat.not_lt.mp hstored, h.symm⟩, fun h => h.2.symm⟩
  · rw [if_neg hlimit]
    exact ⟨(nomatch ·), fun h => absurd (Nat.lt_of_le_of_lt h.1 hcap) hlimit⟩

theorem resize_of_fits {f : Field} {n : Nat} (h : n * f.components < Length.limit) :
    f.resize n = .ok (f.sized n) ∨ f.resize n = .error .capacity := by
  unfold resize
  rw [Length.mul?_of_lt h]
  dsimp only
  split
  · exact .inr rfl
  · exact .inl rfl

theorem resize_eq_error {f : Field} {n : Nat} {k : Fault} (h : f.resize n = .error k) :
    k = .overflow ∨ k = .capacity := by
  unfold resize at h
  split at h
  · exact .inl (Except.error.inj h).symm
  · split at h
    · exact .inr (Except.error.inj h).symm
    · exact nomatch h

theorem removeSlot_of_fits {f : Field} {slot : Nat}
    (h : slot * f.components + f.components < Length.limit) :
    f.removeSlot slot = .ok (f.cut slot) := by
  unfold removeSlot cut
  rw [Length.mul?_of_lt (by omega)]
  dsimp only
  rw [Length.add?_of_lt h]

theorem removeSlot_of_not_fits {f : Field} {slot : Nat}
    (h : ¬ slot * f.components + f.components < Length.limit) :
    f.removeSlot slot = .error .overflow := by
  unfold removeSlot Length.mul?
  split
  · rfl
  · rename_i start hstart
    split at hstart
    · cases hstart
      simp [Length.add?, h]
    · exact nomatch hstart

theorem removeSlot_eq_ok {f g : Field} {slot : Nat} (h : f.removeSlot slot = .ok g) :
    g = f.cut slot := by
  by_cases hfits : slot * f.components + f.components < Length.limit
  · rw [removeSlot_of_fits hfits] at h
    cases h
    rfl
  · rw [removeSlot_of_not_fits hfits] at h
    exact nomatch h

theorem rowStart_eq_some_iff {f : Field} {slot start : Nat} :
    f.rowStart slot = .ok (some start) ↔
      slot * f.components + f.components < Length.limit ∧
        slot * f.components + f.components ≤ f.values.length ∧ start = slot * f.components := by
  unfold rowStart Length.mul?
  by_cases hmul : slot * f.components < Length.limit
  · rw [if_pos hmul]
    dsimp only [Length.add?]
    by_cases hadd : slot * f.components + f.components < Length.limit
    · rw [if_pos hadd]
      by_cases hrow : slot * f.components + f.components ≤ f.values.length
      · simp [hadd, hrow, eq_comm]
      · simp [hrow]
    · rw [if_neg hadd]
      exact ⟨(nomatch ·), fun h => absurd h.1 hadd⟩
  · rw [if_neg hmul]
    exact ⟨(nomatch ·), fun h => by omega⟩

theorem row_end_le {slot later : Nat} (h : slot < later) (components : Nat) :
    slot * components + components ≤ later * components := by
  rw [← Nat.succ_mul]
  exact Nat.mul_le_mul_right _ h

theorem rowStart_of_le {f : Field} {slot : Nat}
    (hrow : slot * f.components + f.components ≤ f.values.length)
    (hstored : f.values.length ≤ Length.capacity) :
    f.rowStart slot = .ok (some (slot * f.components)) := by
  have hcap := Length.capacity_lt_limit
  exact rowStart_eq_some_iff.mpr ⟨by omega, hrow, rfl⟩

theorem rowStart_eq_error {f : Field} {slot : Nat} {k : Fault} (h : f.rowStart slot = .error k) :
    k = .overflow := by
  unfold rowStart at h
  split at h
  · exact nomatch h
  · split at h
    · exact (Except.error.inj h).symm
    · exact nomatch h

theorem row_le_of_row_eq {f : Field} {slot : Nat} {row : List Float}
    (h : f.row slot = .ok (some row)) : slot * f.components + f.components ≤ f.values.length := by
  unfold Field.row at h
  cases hs : f.rowStart slot with
  | error k =>
    rw [hs] at h
    exact nomatch h
  | ok start? =>
    cases start? with
    | none =>
      rw [hs] at h
      exact nomatch h
    | some start => exact (rowStart_eq_some_iff.mp hs).2.1

theorem setRow_cases (f : Field) (slot : Nat) (new : List Float) :
    f.setRow slot new = .error .overflow ∨ f.setRow slot new = .ok none ∨
      (slot * f.components + f.components ≤ f.values.length ∧
        f.setRow slot new = .ok (some (f.writeRow slot new))) := by
  unfold setRow
  cases h : f.rowStart slot with
  | error k => exact .inl (rowStart_eq_error h ▸ rfl)
  | ok start? =>
    cases start? with
    | none => exact .inr (.inl rfl)
    | some start =>
      obtain ⟨_, hrow, rfl⟩ := rowStart_eq_some_iff.mp h
      exact .inr (.inr ⟨hrow, rfl⟩)

theorem length_writeRow {f : Field} {slot : Nat} (new : List Float)
    (hrow : slot * f.components + f.components ≤ f.values.length) :
    (f.writeRow slot new).values.length = f.values.length := by
  simp only [writeRow, List.length_append, List.length_take, List.length_drop, length_overwrite]
  omega

@[simp] theorem components_sized (f : Field) (n : Nat) :
    (f.sized n).components = f.components := rfl

@[simp] theorem allocated_sized (f : Field) (n : Nat) : (f.sized n).allocated = true := rfl

@[simp] theorem length_sized (f : Field) (n : Nat) :
    (f.sized n).values.length = n * f.components := by
  simp only [sized, List.length_append, List.length_take, List.length_replicate]
  omega

@[simp] theorem id_cut (f : Field) (slot : Nat) : (f.cut slot).id = f.id := by
  unfold cut
  split <;> rfl

@[simp] theorem name_cut (f : Field) (slot : Nat) : (f.cut slot).name = f.name := by
  unfold cut
  split <;> rfl

@[simp] theorem components_cut (f : Field) (slot : Nat) :
    (f.cut slot).components = f.components := by
  unfold cut
  split <;> rfl

@[simp] theorem allocated_cut (f : Field) (slot : Nat) :
    (f.cut slot).allocated = f.allocated := by
  unfold cut
  split <;> rfl

/-- One row for each of `n` vertices, or nothing before the first allocation. -/
structure Covers (f : Field) (n : Nat) : Prop where
  components_pos : 1 ≤ f.components
  length_values : f.values.length = if f.allocated then n * f.components else 0
  stored : f.values.length ≤ Length.capacity

theorem covers_declare (id : FieldId) (name : String) {c : Nat} (hc : 1 ≤ c) (n : Nat) :
    (declare id name c).Covers n :=
  ⟨hc, rfl, Nat.zero_le _⟩

theorem covers_sized {f : Field} {n : Nat} (hc : 1 ≤ f.components)
    (hstored : n * f.components ≤ Length.capacity) : (f.sized n).Covers n :=
  ⟨hc, f.length_sized n, (f.length_sized n).symm ▸ hstored⟩

namespace Covers

variable {f : Field} {n : Nat}

theorem length_of_allocated (h : f.Covers n) (ha : f.allocated = true) :
    f.values.length = n * f.components := by simpa [ha] using h.length_values

theorem values_of_unallocated (h : f.Covers n) (ha : f.allocated = false) : f.values = [] := by
  have hlength := h.length_values
  rw [ha] at hlength
  exact List.length_eq_zero_iff.mp hlength

theorem of_unallocated (h : f.Covers n) (ha : f.allocated = false) (k : Nat) : f.Covers k := by
  have hlength := h.length_values
  refine ⟨h.components_pos, ?_, h.stored⟩
  rw [ha] at hlength ⊢
  exact hlength

theorem of_length_eq (h : f.Covers n) {xs : List Float} (hx : xs.length = f.values.length) :
    ({ f with values := xs } : Field).Covers n :=
  ⟨h.components_pos, hx.trans h.length_values, hx ▸ h.stored⟩

theorem cut_of_unallocated (h : f.Covers n) (ha : f.allocated = false) (slot : Nat) :
    f.cut slot = f := by
  have hpos := h.components_pos
  have hlength := congrArg List.length (h.values_of_unallocated ha)
  unfold Field.cut
  rw [if_neg]
  simp only [List.length_nil] at hlength
  omega

theorem row_le (h : f.Covers n) (ha : f.allocated = true) {slot : Nat} (hs : slot < n) :
    slot * f.components + f.components ≤ f.values.length := by
  rw [h.length_of_allocated ha]
  exact row_end_le hs _

theorem cut (h : f.Covers n) {slot : Nat} (hs : slot < n) : (f.cut slot).Covers (n - 1) := by
  cases ha : f.allocated with
  | false =>
    rw [h.cut_of_unallocated ha]
    exact h.of_unallocated ha _
  | true =>
    have hrow := h.row_le ha hs
    have hlength := h.length_of_allocated ha
    have hstored := h.stored
    have hcut : (f.cut slot).values.length = f.values.length - f.components := by
      unfold Field.cut
      rw [if_pos hrow]
      simp only [List.length_append, List.length_take, List.length_drop]
      omega
    refine ⟨by simpa using h.components_pos, ?_, by omega⟩
    rw [allocated_cut, ha, if_pos rfl, components_cut, hcut, hlength, Nat.sub_mul, Nat.one_mul]

end Covers

/-- Either every field is edited, or one stops the edit: those before it are edited, and it and
those behind it are as they were. The function `g` says what the edit makes of a field. -/
theorem editEach_cases {edit : Field → Except Fault Field} {g : Field → Field}
    (hg : ∀ f f', edit f = .ok f' → f' = g f) (fs : List Field) :
    ((∀ f ∈ fs, edit f = .ok (g f)) ∧ editEach edit fs = (none, fs.map g)) ∨
      ∃ done f rest c, fs = done ++ f :: rest ∧ edit f = .error c ∧
        editEach edit fs = (some c, done.map g ++ f :: rest) := by
  induction fs with
  | nil => exact .inl ⟨by simp, rfl⟩
  | cons f fs ih =>
    cases hf : edit f with
    | error c => exact .inr ⟨[], f, fs, c, rfl, hf, by simp [editEach, hf]⟩
    | ok f' =>
      have hf' := hg f f' hf
      subst hf'
      rcases ih with ⟨hall, heq⟩ | ⟨done, x, rest, c, rfl, hx, heq⟩
      · refine .inl ⟨?_, by simp [editEach, hf, heq]⟩
        intro x hx
        rcases List.mem_cons.mp hx with rfl | hx
        · exact hf
        · exact hall x hx
      · exact .inr ⟨f :: done, x, rest, c, rfl, hx, by simp [editEach, hf, heq]⟩

end Field

namespace Mesh

/-- Editing the fields changes nothing else, and it stops only where a field stops the edit. -/
theorem editFields_cases {α : Type} {edit : Field → Except Fault Field} {g : Field → Field}
    (hg : ∀ f f', edit f = .ok f' → f' = g f) (m : Mesh) (a : α) :
    ((∀ f ∈ m.fields, edit f = .ok (g f)) ∧
        m.editFields edit a = ⟨.ok a, { m with fields := m.fields.map g }⟩) ∨
      ∃ done f rest c, m.fields = done ++ f :: rest ∧ edit f = .error c ∧
        m.editFields edit a =
          ⟨.error (.fault c), { m with fields := done.map g ++ f :: rest }⟩ := by
  rcases Field.editEach_cases hg m.fields with ⟨hall, heq⟩ | ⟨done, f, rest, c, hfs, hc, heq⟩
  · exact .inl ⟨hall, by simp only [editFields, heq]⟩
  · exact .inr ⟨done, f, rest, c, hfs, hc, by simp only [editFields, heq]⟩

end Mesh

end FieldMesh

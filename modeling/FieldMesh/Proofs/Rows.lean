import FieldMesh.Proofs.Slots

/-! # Rows of a field

The values of an allocated field are the rows of the vertices, one behind the other and all of
one length. What a field does to its values by offsets, it then does to the rows of vertices:
cutting a slot forgets the row of one vertex, writing a slot replaces one, and growing adds
zero rows without touching the others.
-/

namespace FieldMesh

section EqualLengths

variable {α β : Type} {row : α → List β} {xs : List α} {c : Nat}

theorem take_flatMap_rows (h : ∀ x ∈ xs, (row x).length = c) (i : Nat) :
    (xs.flatMap row).take (i * c) = (xs.take i).flatMap row := by
  induction xs generalizing i with
  | nil => simp
  | cons x xs ih =>
    cases i with
    | zero => simp
    | succ i =>
      have hx : (row x).length = c := h x List.mem_cons_self
      have hoffset : (i + 1) * c = (row x).length + i * c := by rw [hx]; grind
      rw [List.flatMap_cons, hoffset, List.take_length_add_append,
        ih (fun y hy => h y (List.mem_cons_of_mem x hy)) i]
      rfl

theorem drop_flatMap_rows (h : ∀ x ∈ xs, (row x).length = c) (i : Nat) :
    (xs.flatMap row).drop (i * c) = (xs.drop i).flatMap row := by
  induction xs generalizing i with
  | nil => simp
  | cons x xs ih =>
    cases i with
    | zero => simp
    | succ i =>
      have hx : (row x).length = c := h x List.mem_cons_self
      have hoffset : (i + 1) * c = (row x).length + i * c := by rw [hx]; grind
      rw [List.flatMap_cons, hoffset, List.drop_length_add_append,
        ih (fun y hy => h y (List.mem_cons_of_mem x hy)) i]
      rfl

theorem drop_eq_cons_of_getElem? {i : Nat} {x : α} (hx : xs[i]? = some x) :
    xs.drop i = x :: xs.drop (i + 1) := by
  obtain ⟨hlt, rfl⟩ := List.getElem?_eq_some_iff.mp hx
  exact List.drop_eq_getElem_cons hlt

theorem take_drop_flatMap_rows (h : ∀ x ∈ xs, (row x).length = c) {i : Nat} {x : α}
    (hx : xs[i]? = some x) : ((xs.flatMap row).drop (i * c)).take c = row x := by
  have hlength : (row x).length = c := h x (List.mem_of_getElem? hx)
  rw [drop_flatMap_rows h, drop_eq_cons_of_getElem? hx, List.flatMap_cons, ← hlength,
    List.take_left]

theorem cut_flatMap_rows (h : ∀ x ∈ xs, (row x).length = c) (i : Nat) :
    (xs.flatMap row).take (i * c) ++ (xs.flatMap row).drop (i * c + c) =
      (xs.eraseIdx i).flatMap row := by
  rw [← Nat.succ_mul, take_flatMap_rows h, drop_flatMap_rows h, List.eraseIdx_eq_take_drop_succ,
    List.flatMap_append]

theorem write_flatMap_rows [DecidableEq α] (h : ∀ x ∈ xs, (row x).length = c)
    (nodup : xs.Nodup) {i : Nat} {x : α} (hx : xs[i]? = some x) (new : List β) :
    (xs.flatMap row).take (i * c) ++ new ++ (xs.flatMap row).drop (i * c + c) =
      xs.flatMap fun y => if y = x then new else row y := by
  have hsplit : xs = xs.take i ++ x :: xs.drop (i + 1) := by
    rw [← drop_eq_cons_of_getElem? hx, List.take_append_drop]
  have hkeep : ∀ ys : List α, x ∉ ys →
      (ys.flatMap fun y => if y = x then new else row y) = ys.flatMap row := by
    intro ys hys
    refine List.flatMap_congr fun y hy => ?_
    have hyx : y ≠ x := fun hyx => hys (hyx ▸ hy)
    rw [if_neg hyx]
  rw [hsplit, List.nodup_append, List.nodup_cons] at nodup
  have hfront : x ∉ xs.take i := fun hmem => nodup.2.2 x hmem x List.mem_cons_self rfl
  rw [← Nat.succ_mul, take_flatMap_rows h, drop_flatMap_rows h]
  conv_rhs => rw [hsplit, List.flatMap_append, List.flatMap_cons, hkeep _ hfront,
    hkeep _ nodup.2.1.1, if_pos rfl]
  rw [List.append_assoc]

/-- A list of the right length is a sequence of rows. -/
theorem exists_rows [DecidableEq α] (nodup : xs.Nodup) {values : List β}
    (hlength : values.length = xs.length * c) :
    ∃ row : α → List β, (∀ x ∈ xs, (row x).length = c) ∧ values = xs.flatMap row := by
  induction xs generalizing values with
  | nil =>
    rw [List.length_nil, Nat.zero_mul] at hlength
    exact ⟨fun _ => [], by simp, List.length_eq_zero_iff.mp hlength⟩
  | cons x xs ih =>
    rw [List.nodup_cons] at nodup
    rw [List.length_cons, Nat.succ_mul] at hlength
    have hdrop : (values.drop c).length = xs.length * c := by
      rw [List.length_drop]
      omega
    obtain ⟨row, hrow, hrest⟩ := ih nodup.2 hdrop
    have hold : ∀ y ∈ xs, (if y = x then values.take c else row y) = row y := by
      intro y hy
      have hyx : y ≠ x := fun hyx => nodup.1 (hyx ▸ hy)
      exact if_neg hyx
    refine ⟨fun y => if y = x then values.take c else row y, fun y hy => ?_, ?_⟩
    · beta_reduce
      rcases List.mem_cons.mp hy with rfl | hy
      · rw [if_pos rfl, List.length_take]
        omega
      · rw [hold y hy]
        exact hrow y hy
    · have htail : (xs.flatMap fun y => if y = x then values.take c else row y) =
          xs.flatMap row := List.flatMap_congr hold
      rw [List.flatMap_cons, if_pos rfl, htail, ← hrest, List.take_append_drop]

end EqualLengths

namespace Field

def zeroRow (f : Field) : List Float := List.replicate f.components 0.0

/-- The row that a new vertex is given, if the field has been allocated. -/
def newRow? (f : Field) : Option (List Float) := if f.allocated then some f.zeroRow else none

/-- The values are the given rows in the order of the ids, and there are no other rows. -/
structure Holds (f : Field) (ids : List VertexId) (rows : VertexId → Option (List Float)) :
    Prop where
  unallocated : f.allocated = false → f.values = [] ∧ ∀ v, rows v = none
  rows_length : f.allocated = true →
    ∀ v ∈ ids, ∃ row, rows v = some row ∧ row.length = f.components
  values_eq : f.allocated = true → f.values = ids.flatMap fun v => (rows v).getD []
  forgotten : ∀ v, v ∉ ids → rows v = none

namespace Holds

variable {f : Field} {ids : List VertexId} {rows : VertexId → Option (List Float)}

theorem of_unallocated (ha : f.allocated = false) (hvalues : f.values = [])
    (hrows : ∀ v, rows v = none) : f.Holds ids rows where
  unallocated _ := ⟨hvalues, hrows⟩
  rows_length ht := absurd (ha.symm.trans ht) Bool.false_ne_true
  values_eq ht := absurd (ha.symm.trans ht) Bool.false_ne_true
  forgotten v _ := hrows v

theorem of_allocated (ha : f.allocated = true)
    (hlength : ∀ v ∈ ids, ∃ row, rows v = some row ∧ row.length = f.components)
    (hvalues : f.values = ids.flatMap fun v => (rows v).getD [])
    (hforgotten : ∀ v, v ∉ ids → rows v = none) : f.Holds ids rows where
  unallocated hf := absurd (ha.symm.trans hf).symm Bool.false_ne_true
  rows_length _ := hlength
  values_eq _ := hvalues
  forgotten := hforgotten

theorem length_getD (h : f.Holds ids rows) (ha : f.allocated = true) :
    ∀ v ∈ ids, ((rows v).getD []).length = f.components := by
  intro v hv
  obtain ⟨row, hrow, hlength⟩ := h.rows_length ha v hv
  rw [hrow]
  exact hlength

theorem row_eq (h : f.Holds ids rows) (hc : f.Covers ids.length) (ha : f.allocated = true)
    {slot : Nat} {v : VertexId} (hv : ids[slot]? = some v) :
    ∃ row, rows v = some row ∧ f.row slot = .ok (some row) := by
  obtain ⟨row, hrow, hlength⟩ := h.rows_length ha v (List.mem_of_getElem? hv)
  have hlt : slot < ids.length := (List.getElem?_eq_some_iff.mp hv).1
  refine ⟨row, hrow, ?_⟩
  unfold Field.row
  rw [rowStart_of_le (hc.row_le ha hlt) hc.stored, h.values_eq ha]
  have hread := take_drop_flatMap_rows (h.length_getD ha) hv
  rw [hrow] at hread
  exact congrArg (fun r => Except.ok (some r)) hread

theorem declare (id : FieldId) (name : String) (n : Nat) {rows : VertexId → Option (List Float)}
    (hrows : ∀ v, rows v = none) : (Field.declare id name n).Holds ids rows :=
  of_unallocated rfl rfl hrows

/-- A new vertex gets a zero row in an allocated field, and every other row stays. -/
theorem extended (h : f.Holds ids rows) (hc : f.Covers ids.length) {v : VertexId}
    (hv : v ∉ ids) :
    (f.extended (ids.length + 1)).Holds (ids ++ [v])
      fun w => if w = v then f.newRow? else rows w := by
  have hold : ∀ w ∈ ids, (if w = v then f.newRow? else rows w) = rows w := by
    intro w hw
    have hwv : w ≠ v := fun hwv => hv (hwv ▸ hw)
    exact if_neg hwv
  have hforgotten : ∀ w, w ∉ ids ++ [v] → (if w = v then f.newRow? else rows w) = none := by
    intro w hw
    rw [List.mem_append, List.mem_singleton, not_or] at hw
    rw [if_neg hw.2]
    exact h.forgotten w hw.1
  cases ha : f.allocated with
  | false =>
    rw [extended_of_unallocated ha]
    refine of_unallocated ha (h.unallocated ha).1 fun w => ?_
    rw [newRow?, ha, (h.unallocated ha).2 w]
    exact ite_self none
  | true =>
    have hnew : f.newRow? = some f.zeroRow := if_pos ha
    rw [extended_of_allocated ha]
    refine of_allocated rfl (fun w hw => ?_) ?_ hforgotten
    · rcases List.mem_append.mp hw with hw | hw
      · rw [hold w hw]
        exact h.rows_length ha w hw
      · rw [List.mem_singleton] at hw
        exact ⟨f.zeroRow, by rw [if_pos hw, hnew], List.length_replicate⟩
    · have hlength : f.values.length = ids.length * f.components := hc.length_of_allocated ha
      have hmore : (ids.length + 1) * f.components = f.values.length + f.components := by
        rw [hlength, Nat.succ_mul]
      have hgrow : (f.sized (ids.length + 1)).values = f.values ++ f.zeroRow := by
        rw [sized, hmore, Nat.add_sub_cancel_left, List.take_of_length_le (Nat.le_add_right _ _)]
        rfl
      rw [hgrow, List.flatMap_append, List.flatMap_singleton, if_pos rfl, hnew, h.values_eq ha]
      congr 1
      refine List.flatMap_congr fun w hw => ?_
      rw [← hnew, hold w hw]

/-- An allocation gives a zero row to the vertices that have none, and every other row stays. -/
theorem sized (h : f.Holds ids rows) (hc : f.Covers ids.length) :
    (f.sized ids.length).Holds ids
      fun v => if v ∈ ids then (rows v).or (some f.zeroRow) else rows v := by
  have hforgotten : ∀ v, v ∉ ids →
      (if v ∈ ids then (rows v).or (some f.zeroRow) else rows v) = none := by
    intro v hv
    rw [if_neg hv]
    exact h.forgotten v hv
  cases ha : f.allocated with
  | false =>
    have hrow : ∀ v ∈ ids,
        (if v ∈ ids then (rows v).or (some f.zeroRow) else rows v) = some f.zeroRow := by
      intro v hv
      rw [if_pos hv, (h.unallocated ha).2 v]
      rfl
    refine of_allocated rfl (fun v hv => ⟨f.zeroRow, hrow v hv, List.length_replicate⟩) ?_
      hforgotten
    have hzero : ∀ vs : List VertexId,
        List.replicate (vs.length * f.components) 0.0 = vs.flatMap fun _ => f.zeroRow := by
      intro vs
      induction vs with
      | nil => simp
      | cons v vs ih =>
        rw [List.flatMap_cons, ← ih, List.length_cons, Nat.succ_mul, Nat.add_comm,
          List.replicate_add]
        rfl
    have hsized : (f.sized ids.length).values =
        List.replicate (ids.length * f.components) 0.0 := by
      simp [Field.sized, (h.unallocated ha).1]
    rw [hsized, hzero]
    exact List.flatMap_congr fun v hv => by rw [hrow v hv]; rfl
  | true =>
    have hrow : ∀ v ∈ ids,
        (if v ∈ ids then (rows v).or (some f.zeroRow) else rows v) = rows v := by
      intro v hv
      obtain ⟨row, hrow, _⟩ := h.rows_length ha v hv
      rw [if_pos hv, hrow]
      rfl
    have hlength : f.values.length = ids.length * f.components := hc.length_of_allocated ha
    have hsized : (f.sized ids.length).values = f.values := by
      rw [Field.sized, ← hlength, List.take_length, Nat.sub_self]
      exact List.append_nil _
    refine of_allocated rfl (fun v hv => ?_) ?_ hforgotten
    · rw [hrow v hv]
      exact h.rows_length ha v hv
    · rw [hsized, h.values_eq ha]
      exact List.flatMap_congr fun v hv => by rw [hrow v hv]

theorem cut (h : f.Holds ids rows) (hc : f.Covers ids.length) (nodup : ids.Nodup) {slot : Nat}
    {v : VertexId} (hv : ids[slot]? = some v) :
    (f.cut slot).Holds (ids.filter (· ≠ v)) fun w => if w = v then none else rows w := by
  have hold : ∀ w ∈ ids.filter (· ≠ v), w ∈ ids ∧ (if w = v then none else rows w) = rows w := by
    intro w hw
    rw [List.mem_filter, decide_eq_true_iff] at hw
    exact ⟨hw.1, if_neg hw.2⟩
  have hforgotten : ∀ w, w ∉ ids.filter (· ≠ v) → (if w = v then none else rows w) = none := by
    intro w hw
    by_cases hwv : w = v
    · exact if_pos hwv
    · rw [if_neg hwv]
      refine h.forgotten w fun hmem => hw ?_
      exact List.mem_filter.mpr ⟨hmem, decide_eq_true hwv⟩
  cases ha : f.allocated with
  | false =>
    rw [hc.cut_of_unallocated ha]
    refine of_unallocated ha (h.unallocated ha).1 fun w => ?_
    rw [(h.unallocated ha).2 w]
    exact ite_self none
  | true =>
    have hlt : slot < ids.length := (List.getElem?_eq_some_iff.mp hv).1
    refine of_allocated ((f.allocated_cut slot).trans ha) (fun w hw => ?_) ?_ hforgotten
    · rw [(hold w hw).2, components_cut]
      exact h.rows_length ha w (hold w hw).1
    · have hcut : (f.cut slot).values = (ids.eraseIdx slot).flatMap fun w => (rows w).getD [] := by
        rw [Field.cut, if_pos (hc.row_le ha hlt), ← cut_flatMap_rows (h.length_getD ha),
          ← h.values_eq ha]
      have herase : ids.eraseIdx slot = ids.filter (· ≠ v) :=
        eraseIdx_eq_filter (fun w => w) (by rwa [List.map_id']) (by rwa [List.map_id'])
      rw [hcut, herase]
      exact List.flatMap_congr fun w hw => by rw [(hold w hw).2]

theorem writeRow (h : f.Holds ids rows) (ha : f.allocated = true) (nodup : ids.Nodup)
    {slot : Nat} {v : VertexId} (hv : ids[slot]? = some v) (new : List Float) :
    (f.writeRow slot new).Holds ids
      fun w => if w = v then (rows w).map (overwrite · new) else rows w := by
  have hmem : v ∈ ids := List.mem_of_getElem? hv
  obtain ⟨row, hrow, hlength⟩ := h.rows_length ha v hmem
  refine of_allocated ha (fun w hw => ?_) ?_ fun w hw => ?_
  · by_cases hwv : w = v
    · refine ⟨overwrite row new, ?_, (length_overwrite row new).trans hlength⟩
      rw [if_pos hwv, hwv, hrow]
      rfl
    · rw [if_neg hwv]
      exact h.rows_length ha w hw
  · have hread := take_drop_flatMap_rows (h.length_getD ha) hv
    rw [hrow] at hread
    have hwrite := write_flatMap_rows (h.length_getD ha) nodup hv (overwrite row new)
    rw [Field.writeRow, h.values_eq ha, hread]
    refine hwrite.trans (List.flatMap_congr fun w _ => ?_)
    by_cases hwv : w = v
    · rw [if_pos hwv, if_pos hwv, hwv, hrow]
      rfl
    · rw [if_neg hwv, if_neg hwv]
  · have hwv : w ≠ v := fun hwv => hw (hwv ▸ hmem)
    rw [if_neg hwv]
    exact h.forgotten w hw

end Holds

end Field

end FieldMesh

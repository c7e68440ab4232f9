import FieldMesh.Proofs.Outcomes
import Mathlib.Data.List.Nodup

/-! # Ids and slots

The ids of a mesh are distinct and have been handed out, and the slots say where each of them
stands. A new vertex takes the next id and the last position; a removed one leaves a gap, which
the slots of all later vertices close.
-/

namespace FieldMesh

theorem eraseIdx_eq_filter {α β : Type} [DecidableEq β] (key : α → β) {xs : List α} {i : Nat}
    {b : β} (nodup : (xs.map key).Nodup) (h : (xs.map key)[i]? = some b) :
    xs.eraseIdx i = xs.filter fun x => key x ≠ b := by
  induction xs generalizing i with
  | nil => rfl
  | cons x xs ih =>
    rw [List.map_cons, List.nodup_cons] at nodup
    cases i with
    | zero =>
      have hx : key x = b := by simpa using h
      have hall : ∀ y ∈ xs, key y ≠ b := by
        intro y hy hyb
        exact nodup.1 (List.mem_map.mpr ⟨y, hy, hyb.trans hx.symm⟩)
      have hkeep : xs.filter (fun y => key y ≠ b) = xs :=
        List.filter_eq_self.mpr fun y hy => by simpa using hall y hy
      rw [List.filter_cons_of_neg (by simp [hx]), hkeep]
      rfl
    | succ i =>
      have hi : (xs.map key)[i]? = some b := by simpa using h
      have hx : key x ≠ b := by
        intro hxb
        exact nodup.1 (hxb ▸ List.mem_of_getElem? hi)
      rw [List.filter_cons_of_pos (by simpa using hx), ← ih nodup.2 hi]
      rfl

namespace Mesh

/-- Each vertex has an id of its own that was handed out, and a slot that is its position. -/
structure Indexed (m : Mesh) : Prop where
  nodup_ids : m.ids.Nodup
  handed_out : ∀ v ∈ m.ids, v.raw < m.nextId
  slot_iff : ∀ (v : VertexId) (i : Nat), m.slots[v]? = some i ↔ m.ids[i]? = some v

@[simp] theorem length_ids (m : Mesh) : m.ids.length = m.vertices.length := by simp [ids]

theorem getElem?_ids (m : Mesh) (i : Nat) : m.ids[i]? = m.vertices[i]?.map (·.id) := by
  simp [ids]

theorem ids_withCoords (m : Mesh) (slot : Nat) (c : Coords) :
    (m.withCoords slot c).ids = m.ids := by
  apply List.ext_getElem?
  intro i
  rw [getElem?_ids, getElem?_ids, withCoords, List.getElem?_modify]
  cases m.vertices[i]? with
  | none => rfl
  | some w => by_cases hi : slot = i <;> simp [hi]

theorem ids_grown (m : Mesh) (c : Coords) : (m.grown c).ids = m.ids ++ [⟨m.nextId⟩] := by
  simp [grown, ids]

theorem getElem?_closeGap {later : List Vertex} (nodup : (later.map (·.id)).Nodup)
    (slots : Std.ExtTreeMap VertexId Nat) (v : VertexId) :
    (closeGap slots later)[v]? =
      if v ∈ later.map (·.id) then slots[v]?.map (· - 1) else slots[v]? := by
  induction later generalizing slots with
  | nil => rfl
  | cons w ws ih =>
    rw [List.map_cons, List.nodup_cons] at nodup
    change (closeGap (slots.modify w.id (· - 1)) ws)[v]? = _
    rw [ih nodup.2, Std.ExtTreeMap.getElem?_modify]
    by_cases hw : w.id = v
    · have hv : v ∉ ws.map (·.id) := hw ▸ nodup.1
      rw [if_neg hv, if_pos (VertexId.compare_eq_iff.mpr hw), if_pos (by simp [hw]), hw]
    · have hcompare : ¬ compare w.id v = .eq := fun h => hw (VertexId.compare_eq_iff.mp h)
      rw [if_neg hcompare]
      simp [Ne.symm hw]

namespace Indexed

variable {m : Mesh}

theorem position_unique (h : m.Indexed) {v : VertexId} {i j : Nat} (hi : m.ids[i]? = some v)
    (hj : m.ids[j]? = some v) : i = j := by
  have hlt : i < m.ids.length := (List.getElem?_eq_some_iff.mp hi).1
  exact (List.getElem?_inj hlt h.nodup_ids).mp (hi.trans hj.symm)

theorem mem_ids_iff (h : m.Indexed) {v : VertexId} : v ∈ m.ids ↔ ∃ i, m.slots[v]? = some i := by
  simp only [h.slot_iff]
  exact List.mem_iff_getElem?

theorem isLive_iff (h : m.Indexed) {v : VertexId} : m.isLive v = true ↔ v ∈ m.ids := by
  unfold isLive
  rw [h.mem_ids_iff, Std.ExtTreeMap.contains_eq_isSome_getElem?, Option.isSome_iff_exists]

theorem slot_eq_none_iff (h : m.Indexed) {v : VertexId} : m.slots[v]? = none ↔ v ∉ m.ids := by
  rw [h.mem_ids_iff, ← Option.isSome_iff_exists, Option.not_isSome_iff_eq_none]

theorem slot_lt (h : m.Indexed) {v : VertexId} {slot : Nat} (hs : m.slots[v]? = some slot) :
    slot < m.vertices.length := by
  have hlt := (List.getElem?_eq_some_iff.mp ((h.slot_iff v slot).mp hs)).1
  rwa [length_ids] at hlt

theorem next_not_mem (h : m.Indexed) : (⟨m.nextId⟩ : VertexId) ∉ m.ids := fun hmem =>
  Nat.lt_irrefl _ (h.handed_out _ hmem)

theorem grown (h : m.Indexed) (c : Coords) : (m.grown c).Indexed := by
  have hids := m.ids_grown c
  refine ⟨?_, ?_, ?_⟩
  · rw [hids, ← List.concat_eq_append]
    exact h.nodup_ids.concat h.next_not_mem
  · intro v hv
    rw [hids, List.mem_append, List.mem_singleton] at hv
    rcases hv with hv | rfl
    · exact Nat.lt_succ_of_lt (h.handed_out v hv)
    · exact Nat.lt_succ_self _
  · intro v i
    have hslots : (m.grown c).slots[v]? =
        if compare (⟨m.nextId⟩ : VertexId) v = .eq then some m.vertices.length
        else m.slots[v]? := Std.ExtTreeMap.getElem?_insert
    rw [hslots, hids, ← length_ids]
    by_cases hv : (⟨m.nextId⟩ : VertexId) = v
    · rw [if_pos (VertexId.compare_eq_iff.mpr hv), ← hv]
      constructor
      · intro hi
        cases hi
        simp
      · intro hi
        rcases Nat.lt_or_ge i m.ids.length with hlt | hge
        · rw [List.getElem?_append_left hlt] at hi
          exact absurd (List.mem_of_getElem? hi) h.next_not_mem
        · have hlt := (List.getElem?_eq_some_iff.mp hi).1
          rw [List.length_append, List.length_singleton] at hlt
          exact congrArg some (by omega)
    · rw [if_neg fun hc => hv (VertexId.compare_eq_iff.mp hc), h.slot_iff]
      constructor
      · intro hi
        rw [List.getElem?_append_left (List.getElem?_eq_some_iff.mp hi).1]
        exact hi
      · intro hi
        rcases Nat.lt_or_ge i m.ids.length with hlt | hge
        · rwa [List.getElem?_append_left hlt] at hi
        · rw [List.getElem?_append_right hge, List.getElem?_singleton] at hi
          split at hi
          · exact absurd (Option.some.inj hi) hv
          · exact nomatch hi

theorem withCoords (h : m.Indexed) (slot : Nat) (c : Coords) : (m.withCoords slot c).Indexed := by
  have hids := m.ids_withCoords slot c
  exact ⟨hids ▸ h.nodup_ids, hids ▸ h.handed_out, hids ▸ h.slot_iff⟩

theorem vertices_pruned (h : m.Indexed) {v : VertexId} {slot : Nat}
    (hs : m.slots[v]? = some slot) :
    (m.pruned v slot).vertices = m.vertices.filter fun w => w.id ≠ v :=
  eraseIdx_eq_filter Vertex.id h.nodup_ids ((h.slot_iff v slot).mp hs)

theorem ids_pruned (h : m.Indexed) {v : VertexId} {slot : Nat} (hs : m.slots[v]? = some slot) :
    (m.pruned v slot).ids = m.ids.filter (· ≠ v) := by
  unfold ids
  rw [h.vertices_pruned hs, List.filter_map]
  rfl

theorem ids_pruned_eq_eraseIdx (m : Mesh) (v : VertexId) (slot : Nat) :
    (m.pruned v slot).ids = m.ids.eraseIdx slot := by
  simp [Mesh.pruned, ids, List.eraseIdx_eq_take_drop_succ]

theorem later_ids (m : Mesh) (slot : Nat) :
    ((m.vertices.eraseIdx slot).drop slot).map (·.id) = m.ids.drop (slot + 1) := by
  apply List.ext_getElem?
  intro i
  rw [List.getElem?_map, List.getElem?_drop, List.getElem?_drop, getElem?_ids,
    List.getElem?_eraseIdx_of_ge (Nat.le_add_right _ _)]
  congr 2
  omega

theorem getElem?_eraseIdx_iff {v w : VertexId} {slot : Nat}
    (hs : m.ids[slot]? = some v) (hw : w ≠ v) (i : Nat) :
    (m.ids.eraseIdx slot)[i]? = some w ↔
      ∃ j, m.ids[j]? = some w ∧ i = if slot < j then j - 1 else j := by
  rw [List.getElem?_eraseIdx]
  by_cases hi : i < slot
  · rw [if_pos hi]
    constructor
    · intro hiw
      exact ⟨i, hiw, by rw [if_neg (by omega)]⟩
    · rintro ⟨j, hj, hij⟩
      split at hij
      · omega
      · exact hij ▸ hj
  · rw [if_neg hi]
    constructor
    · intro hiw
      exact ⟨i + 1, hiw, by rw [if_pos (by omega)]; rfl⟩
    · rintro ⟨j, hj, hij⟩
      have hne : j ≠ slot := by
        intro hjs
        rw [hjs, hs] at hj
        exact hw (Option.some.inj hj).symm
      split at hij
      · rwa [show i + 1 = j by omega]
      · omega

theorem pruned (h : m.Indexed) {v : VertexId} {slot : Nat} (hs : m.slots[v]? = some slot) :
    (m.pruned v slot).Indexed := by
  have hv : m.ids[slot]? = some v := (h.slot_iff v slot).mp hs
  have hids := h.ids_pruned hs
  refine ⟨?_, ?_, ?_⟩
  · rw [hids]
    exact h.nodup_ids.filter _
  · intro w hw
    rw [hids] at hw
    exact h.handed_out w (List.mem_of_mem_filter hw)
  intro w i
  have hlater : (((m.vertices.eraseIdx slot).drop slot).map (·.id)).Nodup := by
    rw [later_ids]
    exact h.nodup_ids.sublist (List.drop_sublist _ _)
  have hslots : (m.pruned v slot).slots[w]? =
      if w ∈ m.ids.drop (slot + 1) then (m.slots.erase v)[w]?.map (· - 1)
      else (m.slots.erase v)[w]? := by
    rw [← later_ids]
    exact getElem?_closeGap hlater _ w
  rw [hslots, Std.ExtTreeMap.getElem?_erase]
  by_cases hw : w = v
  · -- The removed vertex has neither a slot nor a position.
    subst hw
    rw [if_pos (VertexId.compare_eq_iff.mpr rfl)]
    simp only [Option.map_none, ite_self]
    refine ⟨(nomatch ·), fun hi => ?_⟩
    have hmem := List.mem_of_getElem? hi
    rw [hids] at hmem
    simp at hmem
  · rw [if_neg fun hc => hw (VertexId.compare_eq_iff.mp hc).symm]
    rw [ids_pruned_eq_eraseIdx, getElem?_eraseIdx_iff hv hw]
    have hbehind : ∀ j, m.ids[j]? = some w → (w ∈ m.ids.drop (slot + 1) ↔ slot < j) := by
      intro j hj
      rw [List.mem_iff_getElem?]
      constructor
      · rintro ⟨k, hk⟩
        rw [List.getElem?_drop] at hk
        have := h.position_unique hj hk
        omega
      · intro hlt
        exact ⟨j - (slot + 1), by rw [List.getElem?_drop, ← hj]; congr 1; omega⟩
    constructor
    · intro hi
      split at hi
      · rename_i hmem
        obtain ⟨j, hj, hji⟩ := Option.map_eq_some_iff.mp hi
        have hjw := (h.slot_iff w j).mp hj
        exact ⟨j, hjw, by rw [if_pos ((hbehind j hjw).mp hmem), hji]⟩
      · rename_i hmem
        have hiw := (h.slot_iff w i).mp hi
        exact ⟨i, hiw, by rw [if_neg fun hlt => hmem ((hbehind i hiw).mpr hlt)]⟩
    · rintro ⟨j, hj, rfl⟩
      have hjs := (h.slot_iff w j).mpr hj
      by_cases hlt : slot < j
      · rw [if_pos ((hbehind j hj).mpr hlt), hjs, if_pos hlt]
        rfl
      · rw [if_neg fun hmem => hlt ((hbehind j hj).mp hmem), hjs, if_neg hlt]

end Indexed

end Mesh

end FieldMesh

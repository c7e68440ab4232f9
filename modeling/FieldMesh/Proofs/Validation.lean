import FieldMesh.Proofs.Slots
import Mathlib.Data.List.Perm.Subperm

/-! # What validation accepts

`Mesh.validate` runs five checks one after the other. Each check is shown to pass exactly on
the meshes that have the property it looks for, and the whole passes where all of them do. Slots are
only counted, and looked through if their number is wrong; that this misses no slot is a matter of
counting, since the vertices have passed by then.
-/

namespace FieldMesh

section Checks

variable {α β ε δ : Type}

theorem exists_of_bind {x : Except ε α} {f : α → Except ε β} {b : β} (h : x >>= f = .ok b) :
    ∃ a, x = .ok a ∧ f a = .ok b := by
  cases x with
  | error e => exact nomatch h
  | ok a => exact ⟨a, rfl, h⟩

theorem bind_eq_ok_iff {x : Except ε Unit} {y : Except ε α} {a : α} :
    (x >>= fun _ => y) = .ok a ↔ x = .ok () ∧ y = .ok a := by
  cases x with
  | error e => exact ⟨(nomatch ·), fun h => nomatch h.1⟩
  | ok u => exact ⟨fun h => ⟨rfl, h⟩, fun h => h.2⟩

theorem bind_eq_error_iff {x : Except ε Unit} {y : Except ε α} {e : ε} :
    (x >>= fun _ => y) = .error e ↔ x = .error e ∨ x = .ok () ∧ y = .error e := by
  cases x with
  | error k =>
    change (.error k : Except ε α) = .error e ↔ (.error k : Except ε Unit) = .error e ∨ _
    simp
  | ok u =>
    change y = .error e ↔ _
    simp

theorem mapError_eq_ok_iff {x : Except ε α} {f : ε → δ} {a : α} :
    x.mapError f = .ok a ↔ x = .ok a := by
  cases x with
  | error e => exact ⟨(nomatch ·), (nomatch ·)⟩
  | ok b =>
    exact ⟨fun h => congrArg Except.ok (Except.ok.inj h),
      fun h => congrArg Except.ok (Except.ok.inj h)⟩

theorem forM_eq_ok_iff {xs : List α} {check : α → Except ε Unit} :
    xs.forM check = .ok () ↔ ∀ x ∈ xs, check x = .ok () := by
  induction xs with
  | nil => exact ⟨fun _ => by simp, fun _ => rfl⟩
  | cons x xs ih =>
    change (check x >>= fun _ => xs.forM check) = .ok () ↔ _
    rw [bind_eq_ok_iff, ih, List.forall_mem_cons]

theorem forM_eq_error_iff {xs : List α} {check : α → Except ε Unit} {e : ε} :
    xs.forM check = .error e ↔ ∃ before x after, xs = before ++ x :: after ∧
      (∀ y ∈ before, check y = .ok ()) ∧ check x = .error e := by
  induction xs with
  | nil => exact ⟨nofun, by simp⟩
  | cons x xs ih =>
    change (check x >>= fun _ => xs.forM check) = .error e ↔ _
    cases hx : check x with
    | error k =>
      constructor
      · intro h
        exact ⟨[], x, xs, rfl, nofun, hx.trans h⟩
      · rintro ⟨before, y, after, hxs, hbefore, hy⟩
        cases before with
        | nil =>
          cases hxs
          exact hx.symm.trans hy
        | cons z before =>
          cases hxs
          exact nomatch hx.symm.trans (hbefore x List.mem_cons_self)
    | ok u =>
      change xs.forM check = .error e ↔ _
      rw [ih]
      constructor
      · rintro ⟨before, y, after, rfl, hbefore, hy⟩
        exact ⟨x :: before, y, after, rfl, List.forall_mem_cons.mpr ⟨hx, hbefore⟩, hy⟩
      · rintro ⟨before, y, after, hxs, hbefore, hy⟩
        cases before with
        | nil =>
          cases hxs
          exact nomatch hx.symm.trans hy
        | cons z before =>
          cases hxs
          exact ⟨before, y, after, rfl, (List.forall_mem_cons.mp hbefore).2, hy⟩

theorem exists_first {p : α → Prop} {l : List α} (h : ∃ x ∈ l, p x) :
    ∃ before x after, l = before ++ x :: after ∧ p x ∧ ∀ y ∈ before, ¬ p y := by
  classical
  obtain ⟨x, hx, hp⟩ := h
  obtain ⟨y, hy⟩ := Option.isSome_iff_exists.mp
    (List.find?_isSome (p := fun x => decide (p x)).mpr ⟨x, hx, decide_eq_true hp⟩)
  obtain ⟨hpy, before, after, hsplit, hnot⟩ := List.find?_eq_some_iff_append.mp hy
  exact ⟨before, y, after, hsplit, of_decide_eq_true hpy, fun z hz => by simpa using hnot z hz⟩

end Checks

namespace Mesh

variable {m : Mesh}

theorem checkVertices_eq_ok_iff {seen : List VertexId} {ps : List (Vertex × Nat)} :
    m.checkVertices seen ps = .ok () ↔
      (∀ p ∈ ps, p.1.id ∉ seen ∧ m.slots[p.1.id]? = some p.2 ∧ p.1.id.raw < m.nextId) ∧
        (ps.map fun p => p.1.id).Nodup := by
  induction ps generalizing seen with
  | nil => exact ⟨fun _ => by simp, fun _ => rfl⟩
  | cons p ps ih =>
    obtain ⟨v, position⟩ := p
    unfold checkVertices
    by_cases hseen : seen.contains v.id = true
    · rw [if_pos hseen]
      refine ⟨(nomatch ·), fun h => ?_⟩
      exact absurd (List.contains_iff_mem.mp hseen) (h.1 _ List.mem_cons_self).1
    rw [if_neg hseen]
    by_cases hstale : m.slots[v.id]? ≠ some position ∨ m.nextId ≤ v.id.raw
    · rw [if_pos hstale]
      refine ⟨(nomatch ·), fun h => ?_⟩
      have hv := (h.1 _ List.mem_cons_self).2
      rcases hstale with hslot | hnext
      · exact absurd hv.1 hslot
      · exact absurd hv.2 (Nat.not_lt.mpr hnext)
    · rw [if_neg hstale, ih, List.map_cons, List.nodup_cons, List.forall_mem_cons]
      simp only [not_or, ne_eq, not_not, Nat.not_le] at hstale
      have hv : v.id ∉ seen := fun h => hseen (List.contains_iff_mem.mpr h)
      constructor
      · rintro ⟨hrest, hnodup⟩
        refine ⟨⟨⟨hv, hstale⟩, ?_⟩, ?_, hnodup⟩
        · intro p hp
          have hp' := hrest p hp
          exact ⟨fun h => hp'.1 (List.mem_cons_of_mem _ h), hp'.2⟩
        · intro hmem
          obtain ⟨p, hp, hpv⟩ := List.mem_map.mp hmem
          exact (hrest p hp).1 (hpv ▸ List.mem_cons_self)
      · rintro ⟨⟨_, hrest⟩, hfresh, hnodup⟩
        refine ⟨?_, hnodup⟩
        intro p hp
        have hp' := hrest p hp
        refine ⟨fun h => ?_, hp'.2⟩
        rcases List.mem_cons.mp h with h | h
        · exact hfresh (List.mem_map.mpr ⟨p, hp, h⟩)
        · exact hp'.1 h

theorem checkListed_eq_ok_iff {vs : List VertexId} :
    m.checkListed vs = .ok () ↔ ∀ v ∈ vs, v ∈ m.ids := by
  unfold checkListed
  cases hfind : vs.find? (fun v => !m.ids.contains v) with
  | none =>
    have hall := List.find?_eq_none.mp hfind
    refine ⟨fun _ v hv => ?_, fun _ => rfl⟩
    simpa using hall v hv
  | some v =>
    have hv := List.find?_some hfind
    have hmem := List.mem_of_find?_eq_some hfind
    refine ⟨(nomatch ·), fun h => ?_⟩
    have := h v hmem
    simp [this] at hv

/-- Slots pass by their number, or else by being slots of vertices only. -/
theorem checkSlots_eq_ok_iff :
    m.checkSlots = .ok () ↔
      m.slots.size = m.vertices.length ∨ ∀ v, m.isLive v = true → v ∈ m.ids := by
  unfold checkSlots
  by_cases hsize : m.slots.size = m.vertices.length
  · simp [hsize]
  rw [if_neg hsize]
  simp only [hsize, false_or]
  cases hfind : m.slots.keys.find? (fun v => !m.ids.contains v) with
  | none =>
    have hall := List.find?_eq_none.mp hfind
    refine ⟨fun _ v hv => ?_, fun _ => rfl⟩
    have hkey : v ∈ m.slots.keys := Std.ExtTreeMap.mem_keys.mpr hv
    simpa using hall v hkey
  | some v =>
    have hv := List.find?_some hfind
    have hlive : m.isLive v = true :=
      Std.ExtTreeMap.mem_keys.mp (List.mem_of_find?_eq_some hfind)
    refine ⟨(nomatch ·), fun h => ?_⟩
    have := h v hlive
    simp [this] at hv

theorem checkLength_eq_ok_iff {f : Field} :
    m.checkLength f = .ok () ↔
      (f.allocated = true → m.vertices.length * f.components < Length.limit) ∧
        f.values.length = if f.allocated then m.vertices.length * f.components else 0 := by
  unfold checkLength
  cases ha : f.allocated with
  | false => simp
  | true =>
    simp only [if_true, forall_const]
    by_cases hfits : m.vertices.length * f.components < Length.limit
    · rw [Length.mul?_of_lt hfits]
      dsimp only
      by_cases hlength : f.values.length = m.vertices.length * f.components
      · rw [if_pos hlength]
        exact ⟨fun _ => ⟨hfits, hlength⟩, fun _ => rfl⟩
      · rw [if_neg hlength]
        exact ⟨(nomatch ·), fun h => absurd h.2 hlength⟩
    · have hnone : Length.mul? m.vertices.length f.components = none := if_neg hfits
      rw [hnone]
      exact ⟨(nomatch ·), fun h => absurd h.1 hfits⟩

theorem validate_eq_ok_iff :
    m.validate = .ok () ↔
      m.checkVertices [] m.vertices.zipIdx = .ok () ∧ m.checkSlots = .ok () ∧
        m.checkListed m.allCorners = .ok () ∧ (∀ f ∈ m.fields, m.checkLength f = .ok ()) ∧
        ∀ g ∈ m.groups, m.checkListed g.selection = .ok () := by
  unfold validate
  rw [bind_eq_ok_iff, bind_eq_ok_iff, bind_eq_ok_iff, bind_eq_ok_iff]
  rw [mapError_eq_ok_iff, mapError_eq_ok_iff, mapError_eq_ok_iff, mapError_eq_ok_iff]
  rw [forM_eq_ok_iff, forM_eq_ok_iff]

/-! ## What passes -/

theorem map_id_zipIdx (m : Mesh) : m.vertices.zipIdx.map (fun p => p.1.id) = m.ids := by
  have hids : m.ids = (m.vertices.zipIdx.map Prod.fst).map (·.id) := by
    rw [List.zipIdx_map_fst]
    rfl
  rw [hids, List.map_map]
  rfl

theorem checkVertices_vertices_iff :
    m.checkVertices [] m.vertices.zipIdx = .ok () ↔
      m.ids.Nodup ∧ ∀ (i : Nat) (v : VertexId), m.ids[i]? = some v →
        m.slots[v]? = some i ∧ v.raw < m.nextId := by
  rw [checkVertices_eq_ok_iff, map_id_zipIdx, and_comm]
  refine and_congr_right fun _ => ?_
  constructor
  · intro hall i v hi
    rw [getElem?_ids] at hi
    obtain ⟨u, hu, rfl⟩ := Option.map_eq_some_iff.mp hi
    exact (hall (u, i) (List.mem_zipIdx_iff_getElem?.mpr hu)).2
  · rintro hall ⟨u, i⟩ hu
    have hi : m.ids[i]? = some u.id := by
      rw [getElem?_ids, List.mem_zipIdx_iff_getElem?.mp hu]
      rfl
    exact ⟨List.not_mem_nil, hall i u.id hi⟩

/-- If every vertex has a slot and there are as many slots as vertices, no slot is left over: both
are lists without repetition, one within the other and of one length. -/
theorem mem_ids_of_size_eq (nodup : m.ids.Nodup) (slotted : ∀ v ∈ m.ids, m.isLive v = true)
    (size : m.slots.size = m.vertices.length) {v : VertexId} (live : m.isLive v = true) :
    v ∈ m.ids := by
  have hsub : m.ids ⊆ m.slots.keys := fun w hw => Std.ExtTreeMap.mem_keys.mpr (slotted w hw)
  have hlength : m.slots.keys.length = m.ids.length := by
    rw [Std.ExtTreeMap.length_keys, size, length_ids]
  have hperm := (List.subperm_of_subset nodup hsub).perm_of_length_le (Nat.le_of_eq hlength)
  exact hperm.mem_iff.mpr (Std.ExtTreeMap.mem_keys.mpr live)

theorem checks_iff_indexed :
    (m.checkVertices [] m.vertices.zipIdx = .ok () ∧ m.checkSlots = .ok ()) ↔ m.Indexed := by
  rw [checkVertices_vertices_iff, checkSlots_eq_ok_iff]
  constructor
  · rintro ⟨⟨nodup, hall⟩, hslots⟩
    have slotted : ∀ v ∈ m.ids, m.isLive v = true := by
      intro v hv
      obtain ⟨i, hi⟩ := List.mem_iff_getElem?.mp hv
      rw [isLive, Std.ExtTreeMap.contains_eq_isSome_getElem?, (hall i v hi).1]
      rfl
    have listed : ∀ v, m.isLive v = true → v ∈ m.ids := by
      rcases hslots with hsize | hlisted
      · exact fun v hv => mem_ids_of_size_eq nodup slotted hsize hv
      · exact hlisted
    refine ⟨nodup, fun v hv => ?_, fun v i => ⟨fun hs => ?_, fun hi => (hall i v hi).1⟩⟩
    · obtain ⟨i, hi⟩ := List.mem_iff_getElem?.mp hv
      exact (hall i v hi).2
    · have hlive : m.isLive v = true := by
        rw [isLive, Std.ExtTreeMap.contains_eq_isSome_getElem?, hs]
        rfl
      obtain ⟨j, hj⟩ := List.mem_iff_getElem?.mp (listed v hlive)
      rw [(hall j v hj).1] at hs
      exact Option.some.inj hs ▸ hj
  · intro h
    refine ⟨⟨h.nodup_ids, fun i v hi => ?_⟩, .inr fun v hv => h.isLive_iff.mp hv⟩
    exact ⟨(h.slot_iff v i).mpr hi, h.handed_out v (List.mem_of_getElem? hi)⟩

theorem checkListed_allCorners_iff :
    m.checkListed m.allCorners = .ok () ↔
      (∀ e ∈ m.edges, ∀ v ∈ e.corners, v ∈ m.ids) ∧
        ∀ t ∈ m.triangles, ∀ v ∈ t.corners, v ∈ m.ids := by
  rw [checkListed_eq_ok_iff, allCorners, List.forall_mem_append]
  simp only [List.mem_flatMap]
  constructor
  · rintro ⟨hedges, htriangles⟩
    exact ⟨fun e he v hv => hedges v ⟨e, he, hv⟩, fun t ht v hv => htriangles v ⟨t, ht, hv⟩⟩
  · rintro ⟨hedges, htriangles⟩
    exact ⟨fun v ⟨e, he, hv⟩ => hedges e he v hv, fun v ⟨t, ht, hv⟩ => htriangles t ht v hv⟩

/-- What validation promises: ids, slots, corners, lengths and selections are in order. -/
structure Intact (m : Mesh) : Prop extends Indexed m where
  edges_listed : ∀ e ∈ m.edges, ∀ v ∈ e.corners, v ∈ m.ids
  triangles_listed : ∀ t ∈ m.triangles, ∀ v ∈ t.corners, v ∈ m.ids
  fields_filled : ∀ f ∈ m.fields, f.values.length =
    if f.allocated then m.vertices.length * f.components else 0
  selections_listed : ∀ g ∈ m.groups, ∀ v ∈ g.selection, v ∈ m.ids

/-- The vertices fail for a repeated id or for a stale slot. -/
theorem checkVertices_eq_error {seen : List VertexId} {ps : List (Vertex × Nat)} {x : MeshError}
    (h : m.checkVertices seen ps = .error x) :
    ∃ v, x = .duplicateVertex v ∨ x = .staleSlot v := by
  induction ps generalizing seen with
  | nil => exact nomatch h
  | cons p ps ih =>
    unfold checkVertices at h
    split at h
    · exact ⟨_, .inl (Except.error.inj h).symm⟩
    · split at h
      · exact ⟨_, .inr (Except.error.inj h).symm⟩
      · exact ih h

theorem checkSlots_eq_error {x : MeshError} (h : m.checkSlots = .error x) :
    ∃ v, x = .staleSlot v := by
  unfold checkSlots at h
  split at h
  · exact nomatch h
  · split at h
    · exact ⟨_, (Except.error.inj h).symm⟩
    · exact nomatch h

/-- Ids and slots that do not agree are reported before anything else. -/
theorem validate_of_not_indexed (h : ¬ m.Indexed) :
    ∃ v, m.validate = .error (.refused (.duplicateVertex v)) ∨
      m.validate = .error (.refused (.staleSlot v)) := by
  unfold validate
  cases hvertices : m.checkVertices [] m.vertices.zipIdx with
  | error x =>
    obtain ⟨v, rfl | rfl⟩ := checkVertices_eq_error hvertices
    · exact ⟨v, .inl rfl⟩
    · exact ⟨v, .inr rfl⟩
  | ok u =>
    cases hslots : m.checkSlots with
    | error x =>
      obtain ⟨v, rfl⟩ := checkSlots_eq_error hslots
      exact ⟨v, .inr rfl⟩
    | ok u' => exact absurd (checks_iff_indexed.mp ⟨hvertices, hslots⟩) h

/-- Any mesh at all, whether or not edits can make it, passes validation exactly if it is intact.
The lists of its values are as long as a length can tell, which no list that is stored exceeds. A
slot that is left over for an id without a vertex is never missed: the report is about ids and
slots then, whatever else is wrong. -/
theorem validate_iff_intact (m : Mesh) :
    (m.validate = .ok () ↔
      m.Intact ∧ ∀ f ∈ m.fields, f.values.length < Length.limit) ∧
    ∀ v, m.isLive v = true → v ∉ m.ids →
      ∃ w, m.validate = .error (.refused (.duplicateVertex w)) ∨
        m.validate = .error (.refused (.staleSlot w)) := by
  refine ⟨?_, fun v live surplus => ?_⟩
  · rw [validate_eq_ok_iff, ← and_assoc, checks_iff_indexed, checkListed_allCorners_iff]
    simp only [checkListed_eq_ok_iff, checkLength_eq_ok_iff]
    constructor
    · rintro ⟨hindexed, ⟨hedges, htriangles⟩, hfields, hgroups⟩
      refine ⟨⟨hindexed, hedges, htriangles, fun f hf => (hfields f hf).2, hgroups⟩,
        fun f hf => ?_⟩
      obtain ⟨hfits, hlength⟩ := hfields f hf
      rw [hlength]
      split
      · exact hfits ‹_›
      · decide
    · rintro ⟨h, hlengths⟩
      refine ⟨h.toIndexed, ⟨h.edges_listed, h.triangles_listed⟩, fun f hf => ⟨fun ha => ?_, ?_⟩,
        h.selections_listed⟩
      · have hlength := h.fields_filled f hf
        rw [if_pos ha] at hlength
        exact hlength ▸ hlengths f hf
      · exact h.fields_filled f hf
  · exact validate_of_not_indexed fun h => surplus (h.isLive_iff.mp live)

/-- One vertex, and a slot for another that is not there. -/
example :
    ({ name := "M", dimensions := 2, vertices := [⟨⟨0⟩, .plane 0.0 0.0⟩],
       slots := Std.ExtTreeMap.ofList [((⟨0⟩ : VertexId), 0), (⟨7⟩, 0)] compare, nextId := 8,
       edges := [], triangles := [], fields := [], groups := [] } : Mesh).validate =
      .error (.refused (.staleSlot ⟨7⟩)) := by rfl

theorem guarded_of_valid {α : Type} (h : m.validate = .ok ()) (context : String) (a : α) :
    Edited.guarded m context a = ⟨.ok a, m⟩ := by
  unfold Edited.guarded assert
  rw [h]
  rfl

end Mesh

end FieldMesh

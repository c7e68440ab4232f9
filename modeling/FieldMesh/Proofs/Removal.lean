import FieldMesh.Proofs.RowTable

/-! # Removing several vertices

A mesh can be restricted to some of its vertices in one step, without looking at what stands
where. Removing a vertex is restricting the mesh to all others, and restrictions compose, so
that vertices removed one after the other leave the same mesh in every order.
-/

namespace FieldMesh

namespace Field

def rowAt (f : Field) (slot : Nat) : List Float :=
  (f.values.drop (slot * f.components)).take f.components

/-- The field with the rows of some of the vertices. -/
def keepRows (f : Field) (ids : List VertexId) (keep : VertexId → Bool) : Field :=
  { f with values := (positionsOf keep ids).flatMap f.rowAt }

/-- Whatever values a field has, they are rows of the vertices it covers. -/
theorem Covers.exists_holds {f : Field} {ids : List VertexId} (h : f.Covers ids.length)
    (nodup : ids.Nodup) : ∃ rows, f.Holds ids rows := by
  cases ha : f.allocated with
  | false =>
    exact ⟨fun _ => none, .of_unallocated ha (h.values_of_unallocated ha) fun _ => rfl⟩
  | true =>
    obtain ⟨row, hrow, hvalues⟩ := exists_rows nodup (h.length_of_allocated ha)
    refine ⟨fun v => if v ∈ ids then some (row v) else none,
      .of_allocated ha (fun v hv => ⟨row v, if_pos hv, hrow v hv⟩) ?_ fun v hv => if_neg hv⟩
    rw [hvalues]
    refine List.flatMap_congr fun v hv => ?_
    rw [if_pos hv]
    rfl

theorem flatMap_eq_flatMap_filterMap {α β : Type} {xs : List α} {read : Nat → List β}
    {row : α → List β} {positions : List Nat}
    (h : ∀ i ∈ positions, ∃ x, xs[i]? = some x ∧ read i = row x) :
    positions.flatMap read = (positions.filterMap (xs[·]?)).flatMap row := by
  induction positions with
  | nil => rfl
  | cons i positions ih =>
    obtain ⟨x, hx, hrow⟩ := h i List.mem_cons_self
    rw [List.flatMap_cons, List.filterMap_cons, hx, List.flatMap_cons, hrow,
      ih fun j hj => h j (List.mem_cons_of_mem i hj)]

theorem Holds.keepRows {f : Field} {ids : List VertexId} {rows : VertexId → Option (List Float)}
    (h : f.Holds ids rows) (keep : VertexId → Bool) :
    (f.keepRows ids keep).Holds (ids.filter keep)
      fun v => if keep v = true then rows v else none := by
  cases ha : f.allocated with
  | false =>
    refine of_unallocated ha ?_ fun v => ?_
    · refine List.flatMap_eq_nil_iff.mpr fun i _ => ?_
      rw [rowAt, (h.unallocated ha).1, List.drop_nil, List.take_nil]
    · rw [(h.unallocated ha).2 v]
      exact ite_self none
  | true =>
    have hold : ∀ v ∈ ids.filter keep,
        v ∈ ids ∧ (if keep v = true then rows v else none) = rows v := by
      intro v hv
      rw [List.mem_filter] at hv
      exact ⟨hv.1, if_pos hv.2⟩
    refine of_allocated ha (fun v hv => ?_) ?_ fun v hv => ?_
    · rw [(hold v hv).2]
      exact h.rows_length ha v (hold v hv).1
    · have hread : (f.keepRows ids keep).values =
          ((positionsOf keep ids).filterMap (ids[·]?)).flatMap fun v => (rows v).getD [] := by
        refine flatMap_eq_flatMap_filterMap fun i hi => ?_
        obtain ⟨v, hv, _⟩ := mem_positionsOf.mp hi
        refine ⟨v, hv, ?_⟩
        rw [rowAt, h.values_eq ha]
        exact take_drop_flatMap_rows (h.length_getD ha) hv
      rw [hread, filterMap_positionsOf]
      exact List.flatMap_congr fun v hv => by rw [(hold v hv).2]
    · by_cases hk : keep v = true
      · rw [if_pos hk]
        exact h.forgotten v fun hmem => hv (List.mem_filter.mpr ⟨hmem, hk⟩)
      · exact if_neg hk

theorem Holds.values_unique {f g : Field} {ids : List VertexId}
    {rows : VertexId → Option (List Float)} (hf : f.Holds ids rows) (hg : g.Holds ids rows)
    (hallocated : f.allocated = g.allocated) : f.values = g.values := by
  cases ha : f.allocated with
  | false => rw [(hf.unallocated ha).1, (hg.unallocated (hallocated ▸ ha)).1]
  | true => rw [hf.values_eq ha, hg.values_eq (hallocated ▸ ha)]

theorem eq_of_values {f g : Field} (hid : f.id = g.id) (hname : f.name = g.name)
    (hcomponents : f.components = g.components) (hallocated : f.allocated = g.allocated)
    (hvalues : f.values = g.values) : f = g := by
  cases f
  cases g
  simp_all

/-- Cutting the slot of a vertex keeps the rows of all others. -/
theorem Covers.cut_eq_keepRows {f : Field} {ids : List VertexId} (h : f.Covers ids.length)
    (nodup : ids.Nodup) {slot : Nat} {v : VertexId} (hv : ids[slot]? = some v) :
    f.cut slot = f.keepRows ids (· ≠ v) := by
  obtain ⟨rows, hrows⟩ := h.exists_holds nodup
  have hcut := hrows.cut h nodup hv
  have hkept := hrows.keepRows (· ≠ v)
  have hsame : (fun w => if decide (w ≠ v) = true then rows w else none) =
      fun w => if w = v then none else rows w := by
    funext w
    by_cases hw : w = v <;> simp [hw]
  rw [hsame] at hkept
  have hallocated : (f.cut slot).allocated = (f.keepRows ids (· ≠ v)).allocated :=
    f.allocated_cut slot
  exact eq_of_values (f.id_cut slot) (f.name_cut slot) (f.components_cut slot) hallocated
    (hcut.values_unique hkept hallocated)

theorem Covers.keepRows_keepRows {f : Field} {ids : List VertexId} (h : f.Covers ids.length)
    (nodup : ids.Nodup) (p q : VertexId → Bool) :
    (f.keepRows ids p).keepRows (ids.filter p) q = f.keepRows ids fun v => p v && q v := by
  obtain ⟨rows, hrows⟩ := h.exists_holds nodup
  have htwice := (hrows.keepRows p).keepRows q
  have honce := hrows.keepRows fun v => p v && q v
  have hsame : (fun v => if q v = true then if p v = true then rows v else none else none) =
      fun v => if (p v && q v) = true then rows v else none := by
    funext v
    cases p v <;> cases q v <;> rfl
  have hids : (ids.filter p).filter q = ids.filter fun v => p v && q v := by
    rw [List.filter_filter]
    exact List.filter_congr fun v _ => Bool.and_comm _ _
  rw [hsame, hids] at htwice
  exact eq_of_values rfl rfl rfl rfl (htwice.values_unique honce rfl)

theorem Covers.keepRows_true {f : Field} {ids : List VertexId} (h : f.Covers ids.length)
    (nodup : ids.Nodup) : (f.keepRows ids fun _ => true) = f := by
  obtain ⟨rows, hrows⟩ := h.exists_holds nodup
  have hkept := hrows.keepRows fun _ => true
  rw [List.filter_true] at hkept
  exact eq_of_values rfl rfl rfl rfl (hkept.values_unique hrows rfl)

end Field

namespace Group

/-- A new count depends on the name and on what is kept of the selection. -/
theorem refilter_eq {g g' : Group} {live live' : VertexId → Bool} (hname : g.name = g'.name)
    (hselection : g.selection.filter live = g'.selection.filter live') (edges : List Edge)
    (triangles : List Triangle) :
    g.refilter live edges triangles = g'.refilter live' edges triangles := by
  unfold refilter
  rw [hname, hselection]

theorem refilter_refilter (g : Group) (p q : VertexId → Bool) (edges edges' : List Edge)
    (triangles triangles' : List Triangle) :
    (g.refilter p edges triangles).refilter q edges' triangles' =
      g.refilter (fun v => p v && q v) edges' triangles' := by
  refine refilter_eq (name_refilter _ _ _ _) ?_ edges' triangles'
  rw [selection_refilter, List.filter_filter]
  exact List.filter_congr fun v _ => Bool.and_comm _ _

/-- A group that follows its mesh is what a new count makes of it. -/
theorem Follows.refilter_true {g : Group} {m : Mesh} (h : g.Follows m) :
    g.refilter (fun _ => true) m.edges m.triangles = g := by
  obtain ⟨_, _, hmembers, hedges, htriangles⟩ := h
  have hcovers : (ofSelection g.name g.selection).covers = g.covers := by
    unfold covers contains
    rw [hmembers]
    rfl
  unfold refilter
  dsimp only
  rw [List.filter_true, hcovers, ← hedges, ← htriangles]
  unfold ofSelection
  rw [← hmembers]

end Group

namespace Mesh

attribute [ext] Mesh

/-- The slots of ids that stand in this order. -/
def slotsOf (ids : List VertexId) : Std.ExtTreeMap VertexId Nat :=
  Std.ExtTreeMap.ofList ids.zipIdx

/-- The mesh with some of its vertices: their rows, the elements between them and the groups
among them, all in the order in which they were. -/
def restrict (m : Mesh) (keep : VertexId → Bool) : Mesh :=
  let vertices := m.vertices.filter fun w => keep w.id
  let edges := m.edges.filter fun e => e.corners.all keep
  let triangles := m.triangles.filter fun t => t.corners.all keep
  { m with
    vertices := vertices
    slots := slotsOf (vertices.map (·.id))
    edges := edges
    triangles := triangles
    fields := m.fields.map (·.keepRows m.ids keep)
    groups := m.groups.map (·.refilter keep edges triangles) }

theorem getElem?_slotsOf {ids : List VertexId} (nodup : ids.Nodup) (v : VertexId) (i : Nat) :
    (slotsOf ids)[v]? = some i ↔ ids[i]? = some v := by
  have hkeys : ids.zipIdx.Pairwise fun a b => ¬ compare a.1 b.1 = .eq := by
    rw [← List.zipIdx_map_fst 0 ids, List.Nodup, List.pairwise_map] at nodup
    exact nodup.imp fun hne heq => hne (VertexId.compare_eq_iff.mp heq)
  have hof : ∀ j, ids[j]? = some v → (slotsOf ids)[v]? = some j := fun j hj =>
    Std.ExtTreeMap.getElem?_ofList_of_mem (VertexId.compare_eq_iff.mpr rfl) hkeys
      (List.mem_zipIdx_iff_getElem?.mpr hj)
  refine ⟨fun h => ?_, hof i⟩
  by_cases hv : v ∈ ids
  · obtain ⟨j, hj⟩ := List.mem_iff_getElem?.mp hv
    rw [hof j hj] at h
    exact Option.some.inj h ▸ hj
  · have hnone : (slotsOf ids)[v]? = none := by
      refine Std.ExtTreeMap.getElem?_ofList_of_contains_eq_false ?_
      rw [List.zipIdx_map_fst]
      exact Bool.eq_false_iff.mpr fun h => hv (List.contains_iff_mem.mp h)
    rw [hnone] at h
    exact nomatch h

theorem Indexed.slots_eq {m : Mesh} (h : m.Indexed) : m.slots = slotsOf m.ids := by
  apply Std.ExtTreeMap.ext_getElem?
  intro v
  ext i
  rw [h.slot_iff, getElem?_slotsOf h.nodup_ids]

theorem ids_restrict (m : Mesh) (keep : VertexId → Bool) :
    (m.restrict keep).ids = m.ids.filter keep := by
  unfold ids restrict
  rw [List.filter_map]
  rfl

theorem Fits.restrict {m : Mesh} (h : m.Fits) (keep : VertexId → Bool) :
    (m.restrict keep).Fits := by
  intro f hf
  obtain ⟨old, hold, rfl⟩ := List.mem_map.mp hf
  have hlength : (m.restrict keep).vertices.length ≤ m.vertices.length :=
    List.length_filter_le _ _
  exact Nat.lt_of_le_of_lt (Nat.mul_le_mul_right _ hlength) (h old hold)

namespace Sound

variable {m : Mesh}

/-- Removing a vertex restricts the mesh to all others. -/
theorem withoutVertex_eq_restrict (h : m.Sound) {v : VertexId} {slot : Nat}
    (hs : m.slots[v]? = some slot) : m.withoutVertex v slot = m.restrict (· ≠ v) := by
  have hindexed : (m.pruned v slot).Indexed := h.toIndexed.pruned hs
  have htouches : ∀ corners : List VertexId,
      (!corners.contains v) = corners.all fun w => decide (w ≠ v) := by
    intro corners
    rw [Bool.eq_iff_iff, List.all_eq_true]
    simp only [Bool.not_eq_true', ← Bool.not_eq_true, List.contains_iff_mem, decide_eq_true_iff]
    exact ⟨fun hv w hw hwv => hv (hwv ▸ hw), fun hall hv => hall v hv rfl⟩
  have hedges : (m.pruned v slot).edges = (m.restrict (· ≠ v)).edges :=
    List.filter_congr fun e _ => htouches e.corners
  have htriangles : (m.pruned v slot).triangles = (m.restrict (· ≠ v)).triangles :=
    List.filter_congr fun t _ => htouches t.corners
  refine Mesh.ext rfl rfl (h.vertices_pruned hs) ?_ rfl hedges htriangles ?_ ?_
  · change (m.pruned v slot).slots = slotsOf (m.restrict (· ≠ v)).ids
    rw [hindexed.slots_eq, h.ids_pruned hs, ids_restrict]
  · refine List.map_congr_left fun f hf => ?_
    exact (h.covers_ids hf).cut_eq_keepRows h.nodup_ids ((h.slot_iff v slot).mp hs)
  · refine List.map_congr_left fun g hg => ?_
    change g.refilter (m.pruned v slot).isLive (m.pruned v slot).edges
      (m.pruned v slot).triangles = _
    rw [hedges, htriangles]
    refine Group.refilter_eq rfl (List.filter_congr fun w hw => ?_) _ _
    rw [Bool.eq_iff_iff, hindexed.isLive_iff, h.ids_pruned hs, List.mem_filter]
    exact and_iff_right ((h.groups_follow g hg).live w hw)

theorem restrict_restrict (h : m.Sound) (p q : VertexId → Bool) :
    (m.restrict p).restrict q = m.restrict fun v => p v && q v := by
  have hcorners : ∀ corners : List VertexId,
      (corners.all q && corners.all p) = corners.all fun v => p v && q v := by
    intro corners
    rw [Bool.eq_iff_iff, Bool.and_eq_true, List.all_eq_true, List.all_eq_true, List.all_eq_true]
    simp only [Bool.and_eq_true]
    exact ⟨fun hall v hv => ⟨hall.2 v hv, hall.1 v hv⟩,
      fun hall => ⟨fun v hv => (hall v hv).2, fun v hv => (hall v hv).1⟩⟩
  have hvertices : ((m.restrict p).restrict q).vertices =
      (m.restrict fun v => p v && q v).vertices := by
    change (m.vertices.filter _).filter _ = m.vertices.filter _
    rw [List.filter_filter]
    exact List.filter_congr fun w _ => Bool.and_comm _ _
  have hedges : ((m.restrict p).restrict q).edges = (m.restrict fun v => p v && q v).edges := by
    change (m.edges.filter _).filter _ = m.edges.filter _
    rw [List.filter_filter]
    exact List.filter_congr fun e _ => hcorners e.corners
  have htriangles : ((m.restrict p).restrict q).triangles =
      (m.restrict fun v => p v && q v).triangles := by
    change (m.triangles.filter _).filter _ = m.triangles.filter _
    rw [List.filter_filter]
    exact List.filter_congr fun t _ => hcorners t.corners
  refine Mesh.ext rfl rfl hvertices ?_ rfl hedges htriangles ?_ ?_
  · exact congrArg (fun vs : List Vertex => slotsOf (vs.map (·.id))) hvertices
  · change (m.fields.map _).map _ = m.fields.map _
    rw [List.map_map]
    refine List.map_congr_left fun f hf => ?_
    change (f.keepRows m.ids p).keepRows (m.restrict p).ids q = _
    rw [ids_restrict]
    exact (h.covers_ids hf).keepRows_keepRows h.nodup_ids p q
  · change (m.groups.map _).map _ = m.groups.map _
    rw [List.map_map]
    refine List.map_congr_left fun g _ => ?_
    change (g.refilter p _ _).refilter q ((m.restrict p).restrict q).edges
      ((m.restrict p).restrict q).triangles = _
    rw [Group.refilter_refilter, hedges, htriangles]
    rfl

theorem restrict_true (h : m.Sound) : (m.restrict fun _ => true) = m := by
  have hvertices : (m.restrict fun _ => true).vertices = m.vertices := List.filter_true _
  have hedges : (m.restrict fun _ => true).edges = m.edges :=
    List.filter_eq_self.mpr fun e _ => List.all_eq_true.mpr fun _ _ => rfl
  have htriangles : (m.restrict fun _ => true).triangles = m.triangles :=
    List.filter_eq_self.mpr fun t _ => List.all_eq_true.mpr fun _ _ => rfl
  refine Mesh.ext rfl rfl hvertices ?_ rfl hedges htriangles ?_ ?_
  · change slotsOf (m.restrict fun _ => true).ids = m.slots
    rw [ids_restrict, List.filter_true, h.slots_eq]
  · refine (List.map_congr_left fun f hf => ?_).trans (List.map_id _)
    exact (h.covers_ids hf).keepRows_true h.nodup_ids
  · refine (List.map_congr_left fun g hg => ?_).trans (List.map_id _)
    change g.refilter _ (m.restrict fun _ => true).edges (m.restrict fun _ => true).triangles = g
    rw [hedges, htriangles]
    exact (h.groups_follow g hg).refilter_true

theorem removeVertices (h : m.Sound) (hfits : m.Fits) {vs : List VertexId} (nodup : vs.Nodup)
    (live : ∀ v ∈ vs, v ∈ m.ids) :
    Edit.Along Edit.Succeeds m (vs.map .removeVertex) ∧
      Edit.run m (vs.map .removeVertex) = m.restrict fun v => !vs.contains v := by
  induction vs generalizing m with
  | nil => exact ⟨trivial, h.restrict_true.symm⟩
  | cons v vs ih =>
    rw [List.nodup_cons] at nodup
    obtain ⟨slot, hs⟩ := h.mem_ids_iff.mp (live v List.mem_cons_self)
    have happly : (Edit.removeVertex v).apply m = ⟨.ok (), m.restrict (· ≠ v)⟩ := by
      rw [← h.withoutVertex_eq_restrict hs]
      exact h.removeVertex_eq hs (h.affordable_removeVertex hfits v)
    have hsound : (m.restrict (· ≠ v)).Sound :=
      h.withoutVertex_eq_restrict hs ▸ h.effect (.removeVertex hs)
    have hlive : ∀ w ∈ vs, w ∈ (m.restrict (· ≠ v)).ids := by
      intro w hw
      have hwv : w ≠ v := fun hwv => nodup.1 (hwv ▸ hw)
      rw [ids_restrict, List.mem_filter]
      exact ⟨live w (List.mem_cons_of_mem v hw), decide_eq_true hwv⟩
    obtain ⟨hsucceed, hrun⟩ := ih hsound (hfits.restrict _) nodup.2 hlive
    rw [List.map_cons, Edit.run_cons, Edit.Along, Edit.Succeeds, happly]
    refine ⟨⟨rfl, hsucceed⟩, hrun.trans ?_⟩
    rw [h.restrict_restrict]
    congr 1
    funext w
    rw [List.contains_cons, Bool.not_or]
    by_cases hw : w = v <;> simp [hw]

end Sound

end Mesh

namespace Edit

/-- Distinct live vertices are removed in any order: every call succeeds, and what is left is the
mesh restricted to the other vertices. -/
theorem remove_in_any_order {name : String} {dimensions : Nat} {m : Mesh}
    (created : Mesh.new? name dimensions = .ok m) {es : List Edit} (calls : Along Fitting m es)
    {vs ws : List VertexId} (nodup : vs.Nodup) (live : ∀ v ∈ vs, (run m es).isLive v = true)
    (order : ws.Perm vs) :
    Along Succeeds (run m es) (ws.map .removeVertex) ∧
      run (run m es) (ws.map .removeVertex) = (run m es).restrict fun v => !vs.contains v := by
  have start : m.Sound := Mesh.Sound.of_new created
  have hsound : (run m es).Sound := start.run calls
  have hfits : (run m es).Fits := by
    refine run_preserves (fun _ _ _ he => he.2.2.1) ?_ calls
    obtain ⟨_, rfl⟩ := Mesh.new_eq_ok_iff.mp created
    exact fun f hf => nomatch hf
  have hlive : ∀ v ∈ ws, v ∈ (run m es).ids := fun v hv =>
    hsound.isLive_iff.mp (live v (order.mem_iff.mp hv))
  obtain ⟨hsucceed, hrun⟩ := hsound.removeVertices hfits (order.nodup_iff.mpr nodup) hlive
  refine ⟨hsucceed, hrun.trans ?_⟩
  congr 1
  funext v
  have hsame : ws.contains v = vs.contains v := by
    rw [Bool.eq_iff_iff, List.contains_iff_mem, List.contains_iff_mem, order.mem_iff]
  rw [hsame]

theorem remove_in_any_order_mixedRun :
    [⟨3⟩, ⟨0⟩].Perm [⟨0⟩, (⟨3⟩ : VertexId)] ∧
      Along Succeeds (run (.plane "M") mixedRun) [.removeVertex ⟨3⟩, .removeVertex ⟨0⟩] ∧
      run (run (.plane "M") mixedRun) [.removeVertex ⟨3⟩, .removeVertex ⟨0⟩] =
        (run (.plane "M") mixedRun).restrict fun v => !([⟨0⟩, ⟨3⟩] : List VertexId).contains v := by
  have calls : Along Fitting (.plane "M") mixedRun := by decide +kernel
  have order : [⟨3⟩, ⟨0⟩].Perm [⟨0⟩, (⟨3⟩ : VertexId)] := .swap _ _ _
  have live : ∀ v ∈ [⟨0⟩, (⟨3⟩ : VertexId)],
      (run (.plane "M") mixedRun).isLive v = true := by decide +kernel
  exact ⟨order, remove_in_any_order (Mesh.new_plane "M") calls (by decide) live order⟩

end Edit

end FieldMesh

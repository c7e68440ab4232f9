import FieldMesh.Proofs.Groups

/-! # Wired meshes

A mesh is wired when its ids and slots agree, its elements join distinct live vertices and its
groups follow it under names of their own. Fields play no part in this, so that a mesh stays
wired under every edit that does not leave the range of lengths, even where the values of some
field no longer fit it.
-/

namespace FieldMesh

namespace Mesh

/-- Some corners are live and none of them is repeated. -/
def Spans (m : Mesh) (corners : List VertexId) : Prop := corners.Nodup ∧ ∀ v ∈ corners, v ∈ m.ids

/-- Ids, slots, elements and groups agree. -/
structure Wired (m : Mesh) : Prop extends Indexed m where
  plane_or_space : m.dimensions = 2 ∨ m.dimensions = 3
  coords_dimensions : ∀ w ∈ m.vertices, w.coords.dimensions = m.dimensions
  edges_span : ∀ e ∈ m.edges, m.Spans e.corners
  triangles_span : ∀ t ∈ m.triangles, m.Spans t.corners
  groups_follow : ∀ g ∈ m.groups, g.Follows m
  nodup_names : (m.name :: m.groups.map (·.name)).Nodup

theorem new_eq_ok_iff {m : Mesh} {name : String} {dimensions : Nat} :
    Mesh.new? name dimensions = .ok m ↔
      (dimensions = 2 ∨ dimensions = 3) ∧ m = ⟨name, dimensions, [], ∅, 0, [], [], [], []⟩ := by
  unfold Mesh.new?
  split <;> rename_i h
  · rw [Except.ok.injEq]
    exact ⟨fun heq => ⟨h, heq.symm⟩, fun heq => heq.2.symm⟩
  · exact ⟨(nomatch ·), fun heq => absurd heq.1 h⟩

/-- An empty mesh of the plane. -/
def plane (name : String) : Mesh := ⟨name, 2, [], ∅, 0, [], [], [], []⟩

theorem new_plane (name : String) : Mesh.new? name 2 = .ok (plane name) := rfl

/-! ## Checks in front of edits -/

theorem coords_eq_ok {m : Mesh} {cs : List Float} {c : Coords} (h : m.coords cs = .ok c) :
    c.toList = cs ∧ c.dimensions = m.dimensions := by
  unfold coords at h
  split at h
  · rename_i hlength
    split at h
    · rename_i hc
      cases h
      have hlist := Coords.toList_of_ofList? hc
      exact ⟨hlist, by rw [← Coords.length_toList, hlist, hlength]⟩
    · exact nomatch h
  · exact nomatch h

theorem coords_refused_iff {m : Mesh} (h : m.dimensions = 2 ∨ m.dimensions = 3)
    {cs : List Float} {x : MeshError} :
    m.coords cs = .error x ↔
      cs.length ≠ m.dimensions ∧ x = .coordinateCount m.dimensions cs.length := by
  unfold coords
  by_cases hlength : cs.length = m.dimensions
  · rw [if_pos hlength]
    cases hc : Coords.ofList? cs with
    | none =>
      have hneither := Coords.ofList?_eq_none_iff.mp hc
      rw [hlength] at hneither
      exact absurd h (by omega)
    | some c => exact ⟨(nomatch ·), fun h => absurd hlength h.1⟩
  · rw [if_neg hlength, Except.error.injEq]
    exact ⟨fun h => ⟨hlength, h.symm⟩, fun h => h.2.symm⟩

theorem checkCorners_eq_ok_iff {m : Mesh} {seen vs : List VertexId} :
    m.checkCorners seen vs = .ok () ↔ (∀ v ∈ vs, m.isLive v = true ∧ v ∉ seen) ∧ vs.Nodup := by
  induction vs generalizing seen with
  | nil => simp [checkCorners]
  | cons v vs ih =>
    unfold checkCorners
    by_cases hlive : m.isLive v = true
    · rw [if_pos hlive]
      by_cases hseen : seen.contains v = true
      · rw [if_pos hseen]
        refine ⟨(nomatch ·), fun h => ?_⟩
        exact absurd (List.contains_iff_mem.mp hseen) (h.1 v List.mem_cons_self).2
      · have hv : v ∉ seen := fun h => hseen (List.contains_iff_mem.mpr h)
        rw [if_neg hseen, ih, List.nodup_cons]
        constructor
        · rintro ⟨hrest, hnodup⟩
          refine ⟨?_, fun hmem => (hrest v hmem).2 (by simp), hnodup⟩
          intro w hw
          rcases List.mem_cons.mp hw with rfl | hw
          · exact ⟨hlive, hv⟩
          · exact ⟨(hrest w hw).1, fun h => (hrest w hw).2 (List.mem_append_left _ h)⟩
        · rintro ⟨hall, hnot, hnodup⟩
          refine ⟨?_, hnodup⟩
          intro w hw
          have hwall := hall w (List.mem_cons_of_mem v hw)
          refine ⟨hwall.1, fun h => ?_⟩
          rcases List.mem_append.mp h with h | h
          · exact hwall.2 h
          · rw [List.mem_singleton] at h
            exact hnot (h ▸ hw)
    · rw [if_neg hlive]
      refine ⟨(nomatch ·), fun h => ?_⟩
      exact absurd (h.1 v List.mem_cons_self).1 hlive

theorem any_name_iff {α : Type} {nameOf : α → String} {xs : List α} {name : String} :
    xs.any (nameOf · == name) = true ↔ name ∈ xs.map nameOf := by
  rw [List.any_eq_true, List.mem_map]
  simp only [beq_iff_eq]

theorem hasEntry_iff {m : Mesh} {name : String} :
    m.hasEntry name = true ↔ name ∈ m.name :: m.groups.map (·.name) := by
  unfold hasEntry
  rw [Bool.or_eq_true, beq_iff_eq, any_name_iff, List.mem_cons]

theorem Indexed.spans_of_checked {m : Mesh} (h : m.Indexed) {vs : List VertexId}
    (hvs : m.checkCorners [] vs = .ok ()) : m.Spans vs := by
  obtain ⟨hall, hnodup⟩ := checkCorners_eq_ok_iff.mp hvs
  exact ⟨hnodup, fun v hv => h.isLive_iff.mp (hall v hv).1⟩

/-- A selection lists live vertices in the order of their first mention. -/
theorem selectAll_eq_ok_iff {m : Mesh} {chosen vs s : List VertexId} :
    m.selectAll chosen vs = .ok s ↔
      (∀ v ∈ vs, m.isLive v = true) ∧
        s = chosen ++ (vs.filter fun v => !chosen.contains v).eraseDups := by
  induction vs generalizing chosen with
  | nil =>
    unfold selectAll
    rw [List.filter_nil, List.eraseDups_nil, List.append_nil, Except.ok.injEq]
    exact ⟨fun h => ⟨by simp, h.symm⟩, fun h => h.2.symm⟩
  | cons v vs ih =>
    unfold selectAll
    by_cases hlive : m.isLive v = true
    · rw [if_pos hlive, ih, List.forall_mem_cons]
      simp only [hlive, true_and]
      refine and_congr_right fun _ => ?_
      by_cases hv : chosen.contains v = true
      · rw [if_pos hv, List.filter_cons_of_neg (by simp only [hv]; decide)]
      · rw [if_neg hv, List.filter_cons_of_pos (by simp only [hv]; decide), List.eraseDups_cons,
          List.filter_filter, List.append_assoc, List.singleton_append]
        have hfilter : (fun w => !(chosen ++ [v]).contains w) =
            fun w => !w == v && !chosen.contains w := by
          funext w
          rw [List.contains_eq_any_beq, List.any_append, ← List.contains_eq_any_beq]
          simp [Bool.and_comm]
        rw [hfilter]
    · rw [if_neg hlive]
      refine ⟨(nomatch ·), fun h => ?_⟩
      exact absurd (h.1 v List.mem_cons_self) hlive

theorem nodup_selectAll {m : Mesh} {chosen vs s : List VertexId} (nodup : chosen.Nodup)
    (h : m.selectAll chosen vs = .ok s) : s.Nodup := by
  induction vs generalizing chosen with
  | nil => exact Except.ok.inj h ▸ nodup
  | cons v vs ih =>
    unfold selectAll at h
    split at h
    · refine ih ?_ h
      split
      · exact nodup
      · rename_i hv
        have hnew : v ∉ chosen := fun hmem => hv (List.contains_iff_mem.mpr hmem)
        rw [← List.concat_eq_append]
        exact nodup.concat hnew
    · exact nomatch h

/-! ## Edits of wired meshes -/

namespace Wired

variable {m : Mesh}

theorem with_fields (h : m.Wired) (fs : List Field) : ({ m with fields := fs } : Mesh).Wired where
  nodup_ids := h.nodup_ids
  handed_out := h.handed_out
  slot_iff := h.slot_iff
  plane_or_space := h.plane_or_space
  coords_dimensions := h.coords_dimensions
  edges_span := h.edges_span
  triangles_span := h.triangles_span
  groups_follow := fun g hg => (h.groups_follow g hg).of_more_ids (fun _ => id) rfl rfl
  nodup_names := h.nodup_names

theorem of_new {name : String} {dimensions : Nat}
    (h : Mesh.new? name dimensions = .ok m) : m.Wired := by
  obtain ⟨hdimensions, rfl⟩ := new_eq_ok_iff.mp h
  exact
    { nodup_ids := List.nodup_nil
      handed_out := by simp [ids]
      slot_iff := by simp [ids]
      plane_or_space := hdimensions
      coords_dimensions := by simp
      edges_span := by simp
      triangles_span := by simp
      groups_follow := by simp
      nodup_names := by simp }

theorem coords_eq_error_iff (h : m.Wired) {cs : List Float} {x : MeshError} :
    m.coords cs = .error x ↔
      cs.length ≠ m.dimensions ∧ x = .coordinateCount m.dimensions cs.length :=
  coords_refused_iff h.plane_or_space

theorem grown (h : m.Wired) {c : Coords} (hc : c.dimensions = m.dimensions) :
    (m.grown c).Wired := by
  have hids : ∀ v ∈ m.ids, v ∈ (m.grown c).ids := by
    intro v hv
    change v ∈ (m.vertices ++ [(⟨⟨m.nextId⟩, c⟩ : Vertex)]).map Vertex.id
    rw [List.map_append]
    exact List.mem_append_left _ hv
  refine
    { toIndexed := h.toIndexed.grown c
      plane_or_space := h.plane_or_space
      coords_dimensions := ?_
      edges_span := fun e he => ⟨(h.edges_span e he).1, fun v hv => hids v ((h.edges_span e he).2 v hv)⟩
      triangles_span := fun t ht =>
        ⟨(h.triangles_span t ht).1, fun v hv => hids v ((h.triangles_span t ht).2 v hv)⟩
      groups_follow := fun g hg => (h.groups_follow g hg).of_more_ids hids rfl rfl
      nodup_names := h.nodup_names }
  intro w hw
  rcases List.mem_append.mp hw with hw | hw
  · exact h.coords_dimensions w hw
  · rw [List.mem_singleton] at hw
    rw [hw]
    exact hc

theorem moved (h : m.Wired) (slot : Nat) {c : Coords} (hc : c.dimensions = m.dimensions) :
    (m.withCoords slot c).Wired := by
  have hids := m.ids_withCoords slot c
  refine
    { toIndexed := h.toIndexed.withCoords slot c
      plane_or_space := h.plane_or_space
      coords_dimensions := ?_
      edges_span := fun e he => ⟨(h.edges_span e he).1, hids ▸ (h.edges_span e he).2⟩
      triangles_span := fun t ht => ⟨(h.triangles_span t ht).1, hids ▸ (h.triangles_span t ht).2⟩
      groups_follow := fun g hg =>
        (h.groups_follow g hg).of_more_ids (fun _ hv => hids ▸ hv) rfl rfl
      nodup_names := h.nodup_names }
  intro w hw
  obtain ⟨i, hi⟩ := List.mem_iff_getElem?.mp hw
  rw [withCoords, List.getElem?_modify] at hi
  obtain ⟨u, hu, rfl⟩ := Option.map_eq_some_iff.mp hi
  split
  · exact hc
  · exact h.coords_dimensions u (List.mem_of_getElem? hu)

theorem withEdge (h : m.Wired) {e : Edge} (he : m.Spans e.corners) : (m.withEdge e).Wired := by
  refine
    { toIndexed := ⟨h.nodup_ids, h.handed_out, h.slot_iff⟩
      plane_or_space := h.plane_or_space
      coords_dimensions := h.coords_dimensions
      edges_span := ?_
      triangles_span := h.triangles_span
      groups_follow := ?_
      nodup_names := ?_ }
  · intro x hx
    rcases List.mem_append.mp hx with hx | hx
    · exact h.edges_span x hx
    · rw [List.mem_singleton] at hx
      rw [hx]
      exact he
  · intro g hg
    obtain ⟨old, hold, rfl⟩ := List.mem_map.mp hg
    exact ((h.groups_follow old hold).offerEdge e).of_more_ids (fun _ => id) rfl rfl
  · simpa [Mesh.withEdge, Function.comp_def] using h.nodup_names

theorem withTriangle (h : m.Wired) {t : Triangle} (ht : m.Spans t.corners) :
    (m.withTriangle t).Wired := by
  refine
    { toIndexed := ⟨h.nodup_ids, h.handed_out, h.slot_iff⟩
      plane_or_space := h.plane_or_space
      coords_dimensions := h.coords_dimensions
      edges_span := h.edges_span
      triangles_span := ?_
      groups_follow := ?_
      nodup_names := ?_ }
  · intro x hx
    rcases List.mem_append.mp hx with hx | hx
    · exact h.triangles_span x hx
    · rw [List.mem_singleton] at hx
      rw [hx]
      exact ht
  · intro g hg
    obtain ⟨old, hold, rfl⟩ := List.mem_map.mp hg
    exact ((h.groups_follow old hold).offerTriangle t).of_more_ids (fun _ => id) rfl rfl
  · simpa [Mesh.withTriangle, Function.comp_def] using h.nodup_names

theorem withGroup (h : m.Wired) {name : String} (hname : m.hasEntry name = false)
    {vs selected : List VertexId} (hs : m.selectAll [] vs = .ok selected) :
    (m.withGroup name selected).Wired := by
  refine
    { toIndexed := ⟨h.nodup_ids, h.handed_out, h.slot_iff⟩
      plane_or_space := h.plane_or_space
      coords_dimensions := h.coords_dimensions
      edges_span := h.edges_span
      triangles_span := h.triangles_span
      groups_follow := ?_
      nodup_names := ?_ }
  · intro g hg
    rcases List.mem_append.mp hg with hg | hg
    · exact (h.groups_follow g hg).of_more_ids (fun _ => id) rfl rfl
    · rw [List.mem_singleton] at hg
      rw [hg]
      have hfollows := Group.follows_refilter (g := Group.ofSelection name selected) (m := m)
        (nodup_selectAll List.nodup_nil hs) fun v _ hv => h.isLive_iff.mp hv
      exact hfollows.of_more_ids (fun _ => id) rfl rfl
  · have hnew : name ∉ m.name :: m.groups.map (·.name) := by
      rw [← hasEntry_iff, hname]
      exact Bool.false_ne_true
    have hall := h.nodup_names.concat hnew
    rw [List.concat_eq_append] at hall
    rw [Mesh.withGroup, List.map_append]
    exact hall

theorem removed (h : m.Wired) {v : VertexId} {slot : Nat} (hs : m.slots[v]? = some slot)
    (fs : List Field) :
    (refilterGroups { m.pruned v slot with fields := fs }).Wired := by
  have hindexed : (m.pruned v slot).Indexed := h.toIndexed.pruned hs
  have hids : (m.pruned v slot).ids = m.ids.filter (· ≠ v) := h.toIndexed.ids_pruned hs
  have hspans : ∀ corners, m.Spans corners → corners.contains v = false →
      (m.pruned v slot).Spans corners := by
    intro corners hc hv
    refine ⟨hc.1, fun w hw => ?_⟩
    rw [hids, List.mem_filter]
    have hne : w ≠ v := by
      intro hwv
      rw [← hwv, List.contains_iff_mem.mpr hw] at hv
      exact nomatch hv
    exact ⟨hc.2 w hw, by simpa using hne⟩
  refine
    { toIndexed := ⟨hindexed.nodup_ids, hindexed.handed_out, hindexed.slot_iff⟩
      plane_or_space := h.plane_or_space
      coords_dimensions := fun w hw => h.coords_dimensions w (List.mem_of_mem_eraseIdx hw)
      edges_span := ?_
      triangles_span := ?_
      groups_follow := ?_
      nodup_names := ?_ }
  · intro e he
    obtain ⟨hmem, htouch⟩ := List.mem_filter.mp he
    exact hspans _ (h.edges_span e hmem) (by simpa [Edge.touches] using htouch)
  · intro t ht
    obtain ⟨hmem, htouch⟩ := List.mem_filter.mp ht
    exact hspans _ (h.triangles_span t hmem) (by simpa [Triangle.touches] using htouch)
  · intro g hg
    obtain ⟨old, hold, rfl⟩ := List.mem_map.mp hg
    have hlive : ∀ w ∈ old.selection, (m.pruned v slot).isLive w = true →
        w ∈ (m.pruned v slot).ids := fun w _ hw => hindexed.isLive_iff.mp hw
    have hfollows := Group.follows_refilter (h.groups_follow old hold).nodup hlive
    exact hfollows.of_more_ids (fun _ => id) rfl rfl
  · simpa [refilterGroups, Mesh.pruned, Function.comp_def] using h.nodup_names

/-- Whatever an edit does to the fields, it keeps a mesh wired. -/
theorem reshaped (h : m.Wired) {e : Edit} {n : Mesh} (he : e.Reshapes m n) : n.Wired := by
  cases he with
  | kept _ fs => exact h.with_fields fs
  | createVertex hc fs => exact (h.grown (coords_eq_ok hc).2).with_fields fs
  | moveVertex hc _ => exact h.moved _ (coords_eq_ok hc).2
  | removeVertex hs fs => exact h.removed hs fs
  | createEdge hcorners => exact h.withEdge (h.spans_of_checked hcorners)
  | createTriangle hcorners => exact h.withTriangle (h.spans_of_checked hcorners)
  | createGroup hname hs => exact h.withGroup hname hs

theorem run (h : m.Wired) {es : List Edit}
    (calls : Edit.Along Edit.InRange m es) :
    (Edit.run m es).Wired :=
  Edit.run_preserves (fun _ _ hm he => hm.reshaped (Edit.reshapes_apply he)) h calls

theorem of_reachable (h : m.Reachable) : m.Wired := by
  obtain ⟨name, dimensions, start, es, created, calls, rfl⟩ := h
  exact (of_new created).run calls

end Wired

end Mesh

end FieldMesh

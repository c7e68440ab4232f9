import FieldMesh.Proofs.Areas

/-! # Moving a vertex

Coordinates are stored with their vertex and nowhere else. Views resolve corners by their ids each
time they read them, so that a vertex that moves is seen at its new place by every view of the
mesh, and nothing else is seen to change. The areas are computed from the same snapshots; a vertex
gathers them from the elements at it, so that its area can only change if it shares one of these
with the vertex that moves.
-/

namespace FieldMesh

/-- The vertex, at new coordinates if it is the one that moves. -/
def Vertex.moved (v : VertexId) (c : Coords) (u : Vertex) : Vertex :=
  if u.id = v then { u with coords := c } else u

def Corner.moved (v : VertexId) (c : Coords) (k : Corner) : Corner :=
  if k.id = v then { k with coords := c } else k

def Snapshot.moved (v : VertexId) (c : Coords) : Snapshot → Snapshot
  | vertex k => vertex (k.moved v c)
  | edge k l => edge (k.moved v c) (l.moved v c)
  | triangle k l n => triangle (k.moved v c) (l.moved v c) (n.moved v c)

variable {v : VertexId} {c : Coords}

@[simp] theorem Vertex.id_moved (v : VertexId) (c : Coords) (u : Vertex) :
    (u.moved v c).id = u.id := by
  unfold Vertex.moved
  split <;> rfl

@[simp] theorem Corner.id_moved (v : VertexId) (c : Coords) (k : Corner) :
    (k.moved v c).id = k.id := by
  unfold Corner.moved
  split <;> rfl

theorem Vertex.corner_moved (v : VertexId) (c : Coords) (u : Vertex) :
    (⟨(u.moved v c).id, (u.moved v c).coords⟩ : Corner) = Corner.moved v c ⟨u.id, u.coords⟩ := by
  unfold Vertex.moved Corner.moved
  split <;> rfl

namespace Snapshot

theorem corners_moved (v : VertexId) (c : Coords) (s : Snapshot) :
    (s.moved v c).corners = s.corners.map (·.moved v c) := by
  cases s <;> rfl

@[simp] theorem map_id_corners_moved (v : VertexId) (c : Coords) (s : Snapshot) :
    (s.moved v c).corners.map (·.id) = s.corners.map (·.id) := by
  rw [corners_moved, List.map_map]
  exact List.map_congr_left fun k _ => k.id_moved v c

theorem touches_moved (v : VertexId) (c : Coords) (s : Snapshot) (u : VertexId) :
    (s.moved v c).touches u = s.touches u := by
  rw [touches, map_id_corners_moved, touches]

theorem moved_of_not_touches {s : Snapshot} (h : ¬ s.touches v = true) : s.moved v c = s := by
  have hcorner : ∀ k ∈ s.corners, k.moved v c = k := fun k hk => if_neg fun hkv =>
    h (List.contains_iff_mem.mpr (List.mem_map.mpr ⟨k, hk, hkv⟩))
  cases s <;> simp_all [corners, moved]

/-- At a vertex that shares no snapshot with the one that moves, nothing is seen of the move. -/
theorem filter_touches_map_moved {ss : List Snapshot} {u : VertexId}
    (apart : ∀ s ∈ ss, s.touches u = true → ¬ s.touches v = true) :
    (ss.map (·.moved v c)).filter (·.touches u) = ss.filter (·.touches u) := by
  have htouches : (fun s : Snapshot => s.touches u) ∘ (fun s : Snapshot => s.moved v c) =
      fun s => s.touches u := funext fun s => s.touches_moved v c u
  rw [List.filter_map, htouches]
  refine (List.map_congr_left fun s hmem => ?_).trans (List.map_id _)
  obtain ⟨hs, hu⟩ := List.mem_filter.mp hmem
  exact moved_of_not_touches (apart s hs hu)

end Snapshot

namespace Mesh

/-! ## What every edit keeps -/

/-- Ids and slots agree and no element repeats a corner. Every edit keeps this, also one that a
fault stops half way. -/
structure Proper (m : Mesh) : Prop extends Indexed m where
  plane_or_space : m.dimensions = 2 ∨ m.dimensions = 3
  edges_distinct : ∀ e ∈ m.edges, e.corners.Nodup
  triangles_distinct : ∀ t ∈ m.triangles, t.corners.Nodup

theorem Wired.proper {m : Mesh} (h : m.Wired) : m.Proper where
  toIndexed := h.toIndexed
  plane_or_space := h.plane_or_space
  edges_distinct := fun e he => (h.edges_span e he).1
  triangles_distinct := fun t ht => (h.triangles_span t ht).1

namespace Proper

variable {m n : Mesh}

theorem of_new {name : String} {dimensions : Nat} (h : Mesh.new? name dimensions = .ok m) :
    m.Proper :=
  (Wired.of_new h).proper

theorem with_fields_groups (h : m.Proper) (fs : List Field) (gs : List Group) :
    ({ m with fields := fs, groups := gs } : Mesh).Proper where
  nodup_ids := h.nodup_ids
  handed_out := h.handed_out
  slot_iff := h.slot_iff
  plane_or_space := h.plane_or_space
  edges_distinct := h.edges_distinct
  triangles_distinct := h.triangles_distinct

theorem pruned (h : m.Proper) {slot : Nat} (hs : m.slots[v]? = some slot) :
    (m.pruned v slot).Proper where
  toIndexed := h.toIndexed.pruned hs
  plane_or_space := h.plane_or_space
  edges_distinct := fun e he => h.edges_distinct e (List.mem_of_mem_filter he)
  triangles_distinct := fun t ht => h.triangles_distinct t (List.mem_of_mem_filter ht)

theorem withCoords (h : m.Proper) (slot : Nat) (c : Coords) : (m.withCoords slot c).Proper where
  toIndexed := h.toIndexed.withCoords slot c
  plane_or_space := h.plane_or_space
  edges_distinct := h.edges_distinct
  triangles_distinct := h.triangles_distinct

theorem reshaped (h : m.Proper) {e : Edit} (he : e.Reshapes m n) : n.Proper := by
  cases he with
  | kept _ fs => exact h.with_fields_groups fs m.groups
  | @createVertex cs c hc fs =>
    have hgrown : (m.grown c).Proper :=
      { toIndexed := h.toIndexed.grown c
        plane_or_space := h.plane_or_space
        edges_distinct := h.edges_distinct
        triangles_distinct := h.triangles_distinct }
    exact hgrown.with_fields_groups fs m.groups
  | moveVertex _ _ => exact h.withCoords _ _
  | removeVertex hs fs => exact (h.pruned hs).with_fields_groups fs _
  | createEdge hcorners =>
    refine { h.with_fields_groups m.fields m.groups with edges_distinct := fun x hx => ?_ }
    rcases List.mem_append.mp hx with hx | hx
    · exact h.edges_distinct x hx
    · rw [List.mem_singleton] at hx
      exact hx ▸ (checkCorners_eq_ok_iff.mp hcorners).2
  | createTriangle hcorners =>
    refine { h.with_fields_groups m.fields m.groups with triangles_distinct := fun x hx => ?_ }
    rcases List.mem_append.mp hx with hx | hx
    · exact h.triangles_distinct x hx
    · rw [List.mem_singleton] at hx
      exact hx ▸ (checkCorners_eq_ok_iff.mp hcorners).2
  | createGroup _ _ => exact h.with_fields_groups m.fields _

theorem apply (h : m.Proper) (e : Edit) : (e.apply m).mesh.Proper := by
  cases e with
  | removeVertex v =>
    change (m.removeVertex v).mesh.Proper
    rcases m.removeVertex_cases v with ⟨_, heq⟩ | ⟨slot, hs, heq | ⟨done, f, rest, _, _, heq⟩⟩
    · rw [heq]
      exact h
    · rw [heq]
      exact (h.pruned hs).with_fields_groups _ _
    · rw [heq]
      exact (h.pruned hs).with_fields_groups _ m.groups
  | _ => exact h.reshaped (Edit.reshapes_apply_of_removal fun _ => nofun)

theorem run (h : m.Proper) (es : List Edit) : (Edit.run m es).Proper := by
  induction es generalizing m with
  | nil => exact h
  | cons e es ih => exact ih (h.apply e)

end Proper

/-! ## Views of the moved vertex -/

section Views

variable {m : Mesh} {slot : Nat} {w : View}

theorem length_vertices_withCoords (m : Mesh) (slot : Nat) (c : Coords) :
    (m.withCoords slot c).vertices.length = m.vertices.length :=
  List.length_modify _ _ _

theorem Indexed.vertices_withCoords (h : m.Indexed) (hs : m.slots[v]? = some slot) (c : Coords) :
    (m.withCoords slot c).vertices = m.vertices.map (·.moved v c) := by
  have hv := (h.slot_iff v slot).mp hs
  apply List.ext_getElem?
  intro i
  rw [Mesh.withCoords, List.getElem?_modify, List.getElem?_map]
  cases hu : m.vertices[i]? with
  | none => rfl
  | some u =>
    have hi : m.ids[i]? = some u.id := by
      rw [getElem?_ids, hu]
      rfl
    by_cases heq : slot = i
    · rw [← heq, hv] at hi
      simp [Vertex.moved, heq, ← Option.some.inj hi]
    · have hne : u.id ≠ v := fun huv => heq (h.position_unique hv (huv ▸ hi))
      simp [Vertex.moved, heq, hne]

theorem Indexed.vertex?_withCoords (h : m.Indexed) (hs : m.slots[v]? = some slot) (c : Coords)
    (u : VertexId) : (m.withCoords slot c).vertex? u = (m.vertex? u).map (·.moved v c) := by
  unfold vertex?
  rw [h.vertices_withCoords hs c]
  change m.slots[u]?.bind _ = _
  simp only [List.getElem?_map]
  cases m.slots[u]? <;> rfl

end Views

end Mesh

/-- The same part of another mesh. -/
def View.onto (w : View) (n : Mesh) : View := { w with mesh := n }

namespace View

variable {w : View} {slot : Nat}

theorem corner?_moved (h : w.mesh.Indexed) (hs : w.mesh.slots[v]? = some slot) (c : Coords)
    (u : VertexId) :
    (w.onto (w.mesh.withCoords slot c)).corner? u = (w.corner? u).map (·.moved v c) := by
  change ((w.mesh.withCoords slot c).vertex? u).map _ = ((w.mesh.vertex? u).map _).map _
  rw [h.vertex?_withCoords hs c, Option.map_map, Option.map_map]
  cases hu : w.mesh.vertex? u with
  | none => rfl
  | some x =>
    obtain ⟨_, rfl⟩ := h.vertex?_eq_some hu
    have hcorner := x.corner_moved v c
    rw [Vertex.id_moved] at hcorner
    exact congrArg some hcorner

theorem vertexAt_moved (h : w.mesh.Indexed) (hs : w.mesh.slots[v]? = some slot) (c : Coords)
    (p : Nat) :
    (w.onto (w.mesh.withCoords slot c)).vertexAt p = (w.vertexAt p).map (·.moved v c) := by
  unfold vertexAt onto
  cases w.subset with
  | none =>
    dsimp only
    rw [h.vertices_withCoords hs c, List.getElem?_map]
  | some s =>
    dsimp only
    cases s.group.selection[p]? with
    | none => rfl
    | some u => exact h.vertex?_withCoords hs c u

theorem edgeAt_moved (w : View) (slot : Nat) (c : Coords) (p : Nat) :
    (w.onto (w.mesh.withCoords slot c)).edgeAt p = w.edgeAt p := by
  unfold edgeAt onto
  cases w.subset <;> rfl

theorem triangleAt_moved (w : View) (slot : Nat) (c : Coords) (p : Nat) :
    (w.onto (w.mesh.withCoords slot c)).triangleAt p = w.triangleAt p := by
  unfold triangleAt onto
  cases w.subset <;> rfl

theorem count_moved (w : View) (slot : Nat) (c : Coords) (k : Kind) :
    (w.onto (w.mesh.withCoords slot c)).count k = w.count k := by
  have hlength := w.mesh.length_vertices_withCoords slot c
  unfold count onto
  cases k <;> cases w.subset <;> first | rfl | exact hlength

/-- The vertex that moves is seen at its new place, and every other corner where it was. -/
theorem fetch_moved (h : w.mesh.Indexed) (hs : w.mesh.slots[v]? = some slot) (c : Coords)
    (k : Kind) (p : Nat) :
    (w.onto (w.mesh.withCoords slot c)).fetch k p = (w.fetch k p).map (·.moved v c) := by
  have hcorner := corner?_moved h hs c
  unfold fetch
  cases k with
  | vertex =>
    dsimp only
    rw [vertexAt_moved h hs c, Option.map_map, Option.map_map]
    refine congrArg (Option.map · _) (funext fun x => ?_)
    exact congrArg Snapshot.vertex (x.corner_moved v c)
  | edge =>
    dsimp only
    rw [edgeAt_moved]
    cases w.edgeAt p with
    | none => rfl
    | some e =>
      change ((w.onto _).corner? e.first).bind _ = Option.map _ ((w.corner? e.first).bind _)
      rw [hcorner, hcorner]
      cases w.corner? e.first <;> cases w.corner? e.second <;> rfl
  | triangle =>
    dsimp only
    rw [triangleAt_moved]
    cases w.triangleAt p with
    | none => rfl
    | some t =>
      change ((w.onto _).corner? t.first).bind _ = Option.map _ ((w.corner? t.first).bind _)
      rw [hcorner, hcorner, hcorner]
      cases w.corner? t.first <;> cases w.corner? t.second <;> cases w.corner? t.third <;> rfl

theorem snapshots_moved (h : w.mesh.Indexed) (hs : w.mesh.slots[v]? = some slot) (c : Coords)
    (k : Kind) :
    (w.onto (w.mesh.withCoords slot c)).snapshots k = (w.snapshots k).map (·.moved v c) := by
  have hfrom : ∀ n p, (w.onto (w.mesh.withCoords slot c)).fetchFrom k p n =
      (w.fetchFrom k p n).map (·.moved v c) := by
    intro n
    induction n with
    | zero => exact fun _ => rfl
    | succ n ih =>
      intro p
      rw [fetchFrom, fetchFrom, fetch_moved h hs c]
      cases w.fetch k p with
      | none => rfl
      | some s => exact congrArg (s.moved v c :: ·) (ih (p + 1))
  rw [snapshots, snapshots, count_moved]
  exact hfrom _ 0

theorem exists_fetch_of_mem_snapshots {k : Kind} {s : Snapshot} (h : s ∈ w.snapshots k) :
    ∃ p, w.fetch k p = some s := by
  have hfrom : ∀ n p, s ∈ w.fetchFrom k p n → ∃ q, w.fetch k q = some s := by
    intro n
    induction n with
    | zero => exact fun _ hs => absurd hs List.not_mem_nil
    | succ n ih =>
      intro p hs
      unfold fetchFrom at hs
      cases hp : w.fetch k p with
      | none =>
        rw [hp] at hs
        exact absurd hs List.not_mem_nil
      | some x =>
        rw [hp] at hs
        rcases List.mem_cons.mp hs with rfl | hs
        · exact ⟨p, hp⟩
        · exact ih (p + 1) hs
  exact hfrom _ 0 h

end View

namespace Mesh

variable {m : Mesh} {slot : Nat}

/-- Two vertices share an element that gives shares of its size: an edge in the plane, a triangle in
space. -/
inductive Joined (m : Mesh) (u v : VertexId) : Prop
  | edge {e : Edge} (plane : m.dimensions = 2) (he : e ∈ m.edges) (hu : u ∈ e.corners)
      (hv : v ∈ e.corners)
  | triangle {t : Triangle} (space : m.dimensions = 3) (ht : t ∈ m.triangles)
      (hu : u ∈ t.corners) (hv : v ∈ t.corners)

theorem edge_of_mem_snapshots {s : Snapshot} (h : s ∈ m.whole.snapshots .edge) :
    ∃ e ∈ m.edges, s.corners.map (·.id) = e.corners := by
  obtain ⟨p, hp⟩ := View.exists_fetch_of_mem_snapshots h
  obtain ⟨e, he, hp⟩ := Option.bind_eq_some_iff.mp hp
  obtain ⟨a, ha, hp⟩ := Option.bind_eq_some_iff.mp hp
  obtain ⟨b, hb, hp⟩ := Option.bind_eq_some_iff.mp hp
  obtain ⟨_, _, rfl⟩ := Option.map_eq_some_iff.mp ha
  obtain ⟨_, _, rfl⟩ := Option.map_eq_some_iff.mp hb
  cases hp
  exact ⟨e, List.mem_of_getElem? he, rfl⟩

theorem triangle_of_mem_snapshots {s : Snapshot} (h : s ∈ m.whole.snapshots .triangle) :
    ∃ t ∈ m.triangles, s.corners.map (·.id) = t.corners := by
  obtain ⟨p, hp⟩ := View.exists_fetch_of_mem_snapshots h
  obtain ⟨t, ht, hp⟩ := Option.bind_eq_some_iff.mp hp
  obtain ⟨a, ha, hp⟩ := Option.bind_eq_some_iff.mp hp
  obtain ⟨b, hb, hp⟩ := Option.bind_eq_some_iff.mp hp
  obtain ⟨c, hc, hp⟩ := Option.bind_eq_some_iff.mp hp
  obtain ⟨_, _, rfl⟩ := Option.map_eq_some_iff.mp ha
  obtain ⟨_, _, rfl⟩ := Option.map_eq_some_iff.mp hb
  obtain ⟨_, _, rfl⟩ := Option.map_eq_some_iff.mp hc
  cases hp
  exact ⟨t, List.mem_of_getElem? ht, rfl⟩

/-- What gives shares has distinct corners, and those that share it are joined. -/
theorem Proper.share_corners (h : m.Proper) {s : Snapshot}
    (hs : s ∈ m.whole.snapshots m.shareKind) :
    (s.corners.map (·.id)).Nodup ∧
      ∀ u v, s.touches u = true → s.touches v = true → m.Joined u v := by
  unfold Snapshot.touches
  unfold shareKind at hs
  rcases h.plane_or_space with hdim | hdim
  · rw [if_pos hdim] at hs
    obtain ⟨e, he, hcorners⟩ := edge_of_mem_snapshots hs
    rw [hcorners]
    refine ⟨h.edges_distinct e he, fun u v hu hv => ?_⟩
    exact .edge hdim he (List.contains_iff_mem.mp hu) (List.contains_iff_mem.mp hv)
  · rw [if_neg (by omega)] at hs
    obtain ⟨t, ht, hcorners⟩ := triangle_of_mem_snapshots hs
    rw [hcorners]
    refine ⟨h.triangles_distinct t ht, fun u v hu hv => ?_⟩
    exact .triangle hdim ht (List.contains_iff_mem.mp hu) (List.contains_iff_mem.mp hv)

/-- A vertex that shares no element with the one that moves gathers what it gathered before. -/
theorem Proper.vertexAreas_moved (h : m.Proper) (hs : m.slots[v]? = some slot) (c : Coords)
    {u : VertexId} {i : Nat} (hu : m.slots[u]? = some i) (apart : ¬ m.Joined u v) :
    (m.withCoords slot c).vertexAreas[i]? = m.vertexAreas[i]? := by
  have hmoved : (m.withCoords slot c).whole.snapshots m.shareKind =
      (m.whole.snapshots m.shareKind).map (·.moved v c) :=
    View.snapshots_moved (w := m.whole) h.toIndexed hs c m.shareKind
  have hlength := m.length_vertices_withCoords slot c
  have hareas : (m.withCoords slot c).vertexAreas =
      ((m.whole.snapshots m.shareKind).map (·.moved v c)).foldl m.addShares
        (List.replicate m.vertices.length 0.0) := by
    rw [← hmoved, ← hlength]
    rfl
  have hdistinct : ∀ s ∈ m.whole.snapshots m.shareKind, (s.corners.map (·.id)).Nodup :=
    fun s hmem => (h.share_corners hmem).1
  have hdistinct' : ∀ s ∈ (m.whole.snapshots m.shareKind).map (·.moved v c),
      (s.corners.map (·.id)).Nodup := by
    intro s hmem
    obtain ⟨x, hx, rfl⟩ := List.mem_map.mp hmem
    rw [Snapshot.map_id_corners_moved]
    exact hdistinct x hx
  -- Both sums run over the snapshots at the vertex, and these are the same.
  have hsame : ((m.whole.snapshots m.shareKind).map (·.moved v c)).filter (·.touches u) =
      (m.whole.snapshots m.shareKind).filter (·.touches u) :=
    Snapshot.filter_touches_map_moved fun s hmem hsu hsv =>
      apart ((h.share_corners hmem).2 u v hsu hsv)
  rw [hareas, vertexAreas, h.getElem?_foldl_addShares hu hdistinct',
    h.getElem?_foldl_addShares hu hdistinct, hsame]

theorem Proper.exists_coords (h : m.Proper) {cs : List Float} (length : cs.length = m.dimensions) :
    ∃ c, m.coords cs = .ok c ∧ c.toList = cs := by
  cases hc : m.coords cs with
  | ok c => exact ⟨c, rfl, (coords_eq_ok hc).1⟩
  | error x => exact absurd length ((coords_refused_iff h.plane_or_space).mp hc).1

theorem view_withCoords (m : Mesh) (slot : Nat) (c : Coords) (name : String) :
    (m.withCoords slot c).view name = (m.view name).map (·.onto (m.withCoords slot c)) := by
  unfold view withCoords
  dsimp only
  by_cases hname : name = m.name
  · rw [if_pos hname, if_pos hname]
    rfl
  · rw [if_neg hname, if_neg hname]
    cases m.groups.findIdx? (·.name == name) with
    | none => rfl
    | some position =>
      dsimp only
      cases m.groups[position]? <;> rfl

end Mesh

namespace Edit

/-- A vertex of the mesh that any run has left, wherever its calls stopped, moves to any place that
has as many coordinates as the mesh has dimensions. It is seen there by every view, at every corner
that is this vertex; all other corners, and the order of what is shown, are as they were. Ids and
slots, elements, fields and groups stay. The area of a vertex changes only if the vertex shares an
element with the one that moves. -/
theorem moved_everywhere {name : String} {dimensions : Nat} {start : Mesh}
    (created : Mesh.new? name dimensions = .ok start) (es : List Edit) {v : VertexId}
    {cs : List Float} (live : (run start es).isLive v = true)
    (length : cs.length = (run start es).dimensions) :
    let m := run start es
    ∃ c n, c.toList = cs ∧ m.moveVertex v cs = ⟨.ok (), n⟩ ∧
      n = { m with vertices := m.vertices.map (·.moved v c) } ∧
      (∀ group, n.view group = (m.view group).map (·.onto n)) ∧
      (∀ w, m.Shows w → ∀ k, (w.onto n).count k = w.count k ∧
        (∀ p, (w.onto n).fetch k p = (w.fetch k p).map (·.moved v c)) ∧
        ∀ key, (Cursor.first ⟨key, w.onto n⟩ : Cursor k).exhaust.1 =
          (Cursor.first ⟨key, w⟩ : Cursor k).exhaust.1.map (·.moved v c)) ∧
      n.vertexAreas.length = m.vertexAreas.length ∧
      ∀ (slot : Nat) (u : Vertex), m.vertices[slot]? = some u → ¬ m.Joined u.id v →
        n.vertexAreas[slot]? = m.vertexAreas[slot]? := by
  intro m
  have h : m.Proper := (Mesh.Proper.of_new created).run es
  obtain ⟨c, hc, hlist⟩ := h.exists_coords length
  obtain ⟨slot, hs⟩ := h.mem_ids_iff.mp (h.isLive_iff.mp live)
  refine ⟨c, m.withCoords slot c, hlist, ?_, ?_, m.view_withCoords slot c, fun w hw k => ?_, ?_,
    fun i u hu apart => ?_⟩
  · simp only [Mesh.moveVertex, hc, hs]
    rfl
  · rw [← h.vertices_withCoords hs c]
    rfl
  · have hmesh : w.mesh = m := by
      rcases hw.cases with rfl | ⟨_, _, _, rfl⟩ <;> rfl
    obtain ⟨mesh, subset⟩ := w
    subst hmesh
    refine ⟨View.count_moved _ slot c k, View.fetch_moved h.toIndexed hs c k, fun key => ?_⟩
    rw [Cursor.exhaust_first, Cursor.exhaust_first]
    exact View.snapshots_moved (w := ⟨m, subset⟩) h.toIndexed hs c k
  · unfold Mesh.vertexAreas
    rw [Mesh.length_foldl_addShares, Mesh.length_foldl_addShares, List.length_replicate,
      List.length_replicate, m.length_vertices_withCoords]
  · have hi : m.slots[u.id]? = some i := by
      rw [h.slot_iff, Mesh.getElem?_ids, hu]
      rfl
    exact h.vertexAreas_moved hs c hi apart

/-- The group shows its edge with one end at the new place. -/
theorem moved_everywhere_groupRun :
    Mesh.new? "M" 2 = .ok (.plane "M") ∧
      ∃ c n w, c.toList = [2.0, 2.0] ∧
        (run (.plane "M") groupRun).moveVertex ⟨3⟩ [2.0, 2.0] = ⟨.ok (), n⟩ ∧
        n.view "G" = .ok w ∧
        w.fetch .edge 0 = some (.edge ⟨⟨1⟩, .plane 1.0 0.0⟩ ⟨⟨3⟩, c⟩) := by
  have live : (run (.plane "M") groupRun).isLive ⟨3⟩ = true := by decide +kernel
  have length : [2.0, 2.0].length = (run (.plane "M") groupRun).dimensions := rfl
  obtain ⟨c, n, hlist, hmove, _, hview, hseen, _⟩ :=
    moved_everywhere (Mesh.new_plane "M") groupRun live length
  obtain ⟨w, hw⟩ : ∃ w, (run (.plane "M") groupRun).view "G" = .ok w := ⟨_, rfl⟩
  have hfetch : w.fetch .edge 0 =
      some (.edge ⟨⟨1⟩, .plane 1.0 0.0⟩ ⟨⟨3⟩, .plane 1.0 1.0⟩) := by
    cases hw
    rfl
  refine ⟨rfl, c, n, w.onto n, hlist, hmove, by rw [hview, hw]; rfl, ?_⟩
  rw [(hseen w ⟨"G", hw⟩ .edge).2.1, hfetch]
  rfl

end Edit

end FieldMesh

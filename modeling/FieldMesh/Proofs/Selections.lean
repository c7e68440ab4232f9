import FieldMesh.Proofs.Runs
import FieldMesh.Proofs.Snapshots

/-! # Selections over runs

A selection is settled when its group is declared and afterwards only loses the vertices that
are removed. Together with the positions, which follow the elements of the mesh, this says what
a group is at every point of a run, in whichever order elements, groups and removals come.
-/

namespace FieldMesh

namespace Edit

def removed? : Edit → Option VertexId
  | removeVertex v => some v
  | _ => none

def removals (es : List Edit) : List VertexId := es.filterMap removed?

theorem mem_removals {es : List Edit} {v : VertexId} :
    v ∈ removals es ↔ .removeVertex v ∈ es := by
  unfold removals
  rw [List.mem_filterMap]
  constructor
  · rintro ⟨e, he, hv⟩
    cases e with
    | removeVertex w => exact Option.some.inj hv ▸ he
    | _ => exact nomatch hv
  · exact fun h => ⟨_, h, rfl⟩

end Edit

namespace Mesh

/-- The mesh would accept a group of this name over these vertices. -/
def AcceptsGroup (m : Mesh) (name : String) (vs : List VertexId) : Prop :=
  m.hasEntry name = false ∧ ∀ v ∈ vs, m.isLive v = true

end Mesh

namespace Group

/-- The group was declared by a call of the run, and it selects what that call listed, each vertex
at its first mention, apart from what was removed afterwards. -/
def DeclaredIn (g : Group) (m : Mesh) (es : List Edit) : Prop :=
  ∃ before vs after, es = before ++ .createGroup g.name vs :: after ∧
    (Edit.run m before).AcceptsGroup g.name vs ∧
    g.selection = vs.eraseDups.filter fun v => !(Edit.removals after).contains v

end Group

namespace Edit

variable {m n : Mesh} {e : Edit} {g : Group}

theorem filter_removals_eq_self {vs : List VertexId} (h : ∀ v ∈ vs, e ≠ .removeVertex v) :
    vs.filter (fun v => !(removals [e]).contains v) = vs := by
  rw [List.filter_eq_self]
  intro v hv
  have hnot : v ∉ removals [e] := by
    rw [mem_removals, List.mem_singleton]
    exact fun he => h v hv he.symm
  simpa using hnot

/-- A selection after one edit: an old one without the removed vertex, or that of a new group. -/
theorem Reshapes.selection_cases (he : Reshapes m e n) (h : m.Wired) (hg : g ∈ n.groups) :
    (∃ old ∈ m.groups, old.name = g.name ∧
        g.selection = old.selection.filter fun v => !(removals [e]).contains v) ∨
      ∃ vs, e = .createGroup g.name vs ∧ m.AcceptsGroup g.name vs ∧
        g.selection = vs.eraseDups := by
  have same : (∀ v, e ≠ .removeVertex v) → ∀ vs : List VertexId,
      vs = vs.filter fun v => !(removals [e]).contains v :=
    fun hne vs => (filter_removals_eq_self fun v _ => hne v).symm
  cases he with
  | kept unknown fs =>
    refine .inl ⟨g, hg, rfl, (filter_removals_eq_self fun v hv he => ?_).symm⟩
    have hlive : v ∈ m.ids := (h.groups_follow g hg).live v hv
    exact h.slot_eq_none_iff.mp (unknown v he) hlive
  | createVertex _ fs =>
    exact .inl ⟨g, hg, rfl, same (fun _ he => nomatch he) _⟩
  | moveVertex _ _ =>
    exact .inl ⟨g, hg, rfl, same (fun _ he => nomatch he) _⟩
  | @removeVertex v slot hs fs =>
    obtain ⟨old, hold, rfl⟩ := List.mem_map.mp hg
    refine .inl ⟨old, hold, rfl, ?_⟩
    have hpruned : (m.pruned v slot).Indexed := h.toIndexed.pruned hs
    rw [Group.selection_refilter]
    refine List.filter_congr fun w hw => ?_
    have hlive : w ∈ m.ids := (h.groups_follow old hold).live w hw
    change (m.pruned v slot).isLive w = _
    rw [Bool.eq_iff_iff, hpruned.isLive_iff, h.ids_pruned hs]
    simp [removals, removed?, hlive]
  | createEdge _ =>
    obtain ⟨old, hold, rfl⟩ := List.mem_map.mp hg
    refine .inl ⟨old, hold, (Group.name_offerEdge _ _ _).symm, ?_⟩
    rw [Group.selection_offerEdge]
    exact same (fun _ he => nomatch he) _
  | createTriangle _ =>
    obtain ⟨old, hold, rfl⟩ := List.mem_map.mp hg
    refine .inl ⟨old, hold, (Group.name_offerTriangle _ _ _).symm, ?_⟩
    rw [Group.selection_offerTriangle]
    exact same (fun _ he => nomatch he) _
  | @createGroup name vs selected hname hs =>
    rcases List.mem_append.mp hg with hg | hg
    · exact .inl ⟨g, hg, rfl, same (fun _ he => nomatch he) _⟩
    · rw [List.mem_singleton] at hg
      subst hg
      obtain ⟨hlive, rfl⟩ := Mesh.selectAll_eq_ok_iff.mp hs
      refine .inr ⟨vs, rfl, ⟨hname, hlive⟩, ?_⟩
      have hall : vs.filter (fun v => !([] : List VertexId).contains v) = vs :=
        List.filter_eq_self.mpr fun _ _ => rfl
      rw [Group.selection_refilter, hall]
      refine List.filter_eq_self.mpr fun v hv => ?_
      exact hlive v (List.mem_eraseDups.mp hv)

theorem declaredIn_of_mem {es : List Edit} (h : m.Wired) (empty : m.groups = [])
    (calls : Along InRange m es) (hg : g ∈ (run m es).groups) : g.DeclaredIn m es := by
  induction es using List.reverseRecOn generalizing g with
  | nil =>
    rw [run_nil, empty] at hg
    exact nomatch hg
  | append_singleton es e ih =>
    obtain ⟨hes, he, _⟩ := (along_append es [e]).mp calls
    rw [run_append] at hg
    rcases (reshapes_apply he).selection_cases (h.run hes) hg with
      ⟨old, hold, hname, hselection⟩ | ⟨vs, rfl, haccepts, hselection⟩
    · obtain ⟨before, vs, after, rfl, haccepts, hsettled⟩ := ih hes hold
      refine ⟨before, vs, after ++ [e], ?_, hname ▸ haccepts, ?_⟩
      · rw [hname, List.append_assoc]
        rfl
      · rw [hselection, hsettled, List.filter_filter]
        refine List.filter_congr fun v _ => ?_
        rw [removals, removals, removals, List.filterMap_append, List.contains_append, Bool.not_or,
          Bool.and_comm]
    · exact ⟨es, vs, [], rfl, haccepts, by rw [hselection]; exact (List.filter_true _).symm⟩

/-- At every point of a run each group is the filter of the whole mesh by its selection: it lists
the positions of the covered elements in ascending order, and a cursor over it yields the
snapshots of the whole mesh whose corners are all selected, in the order of the mesh. -/
theorem groups_filter_mesh {name : String} {dimensions : Nat}
    (created : Mesh.new? name dimensions = .ok m) {es : List Edit}
    (calls : Along InRange m es) {i : Nat} (hg : (run m es).groups[i]? = some g) :
    g.DeclaredIn m es ∧ (∀ v, g.contains v = true ↔ v ∈ g.selection) ∧
    (g.edges.Pairwise (· < ·) ∧ ∀ j, j ∈ g.edges ↔
      ∃ e, (run m es).edges[j]? = some e ∧ ∀ v ∈ e.corners, v ∈ g.selection) ∧
    (g.triangles.Pairwise (· < ·) ∧ ∀ j, j ∈ g.triangles ↔
      ∃ t, (run m es).triangles[j]? = some t ∧ ∀ v ∈ t.corners, v ∈ g.selection) ∧
    (run m es).view g.name = .ok ⟨run m es, some ⟨i, g⟩⟩ ∧
    ∀ key : MeshKey,
      ((Cursor.first ⟨key, (run m es).whole⟩ : Cursor .edge).exhaust.1.map
          (fun s => s.corners.map (·.id)) = (run m es).edges.map Edge.corners ∧
        (Cursor.first ⟨key, ⟨run m es, some ⟨i, g⟩⟩⟩ : Cursor .edge).exhaust.1 =
          (Cursor.first ⟨key, (run m es).whole⟩ : Cursor .edge).exhaust.1.filter
            (Snapshot.within g.selection)) ∧
      ((Cursor.first ⟨key, (run m es).whole⟩ : Cursor .triangle).exhaust.1.map
          (fun s => s.corners.map (·.id)) = (run m es).triangles.map Triangle.corners ∧
        (Cursor.first ⟨key, ⟨run m es, some ⟨i, g⟩⟩⟩ : Cursor .triangle).exhaust.1 =
          (Cursor.first ⟨key, (run m es).whole⟩ : Cursor .triangle).exhaust.1.filter
            (Snapshot.within g.selection)) := by
  have start : m.Wired := Mesh.Wired.of_new created
  have empty : m.groups = [] := by rw [(Mesh.new_eq_ok_iff.mp created).2]
  have hwired : (run m es).Wired := start.run calls
  have hmem : g ∈ (run m es).groups := List.mem_of_getElem? hg
  have hfollows := hwired.groups_follow g hmem
  refine ⟨declaredIn_of_mem start empty calls hmem,
    fun v => Group.contains_iff hfollows.members, ⟨?_, ?_⟩, ⟨?_, ?_⟩, hwired.view_group hg,
    fun key => ⟨⟨?_, ?_⟩, ⟨?_, ?_⟩⟩⟩
  · rw [hfollows.edges]
    exact pairwise_positionsOf _ _
  · intro j
    rw [hfollows.edges, mem_positionsOf]
    simp only [Group.covers_iff hfollows.members]
  · rw [hfollows.triangles]
    exact pairwise_positionsOf _ _
  · intro j
    rw [hfollows.triangles, mem_positionsOf]
    simp only [Group.covers_iff hfollows.members]
  · rw [Cursor.exhaust_first, hwired.snapshots_edges]
    exact Mesh.map_corners_filterMap fun e he => hwired.edgeSnapshot (hwired.edges_span e he)
  · rw [Cursor.exhaust_first, Cursor.exhaust_first]
    exact hwired.snapshots_group_edges hmem i
  · rw [Cursor.exhaust_first, hwired.snapshots_triangles]
    exact Mesh.map_corners_filterMap fun t ht =>
      hwired.triangleSnapshot (hwired.triangles_span t ht)
  · rw [Cursor.exhaust_first, Cursor.exhaust_first]
    exact hwired.snapshots_group_triangles hmem i

/-- A run with elements on both sides of a group and of a removal. -/
def groupRun : List Edit :=
  [.createVertex [0.0, 0.0], .createVertex [1.0, 0.0], .createVertex [0.0, 1.0],
    .createVertex [1.0, 1.0], .createEdge ⟨0⟩ ⟨1⟩, .createEdge ⟨2⟩ ⟨3⟩,
    .createGroup "G" [⟨3⟩, ⟨1⟩, ⟨2⟩, ⟨3⟩], .removeVertex ⟨0⟩, .removeVertex ⟨0⟩,
    .createEdge ⟨1⟩ ⟨3⟩, .createTriangle ⟨1⟩ ⟨2⟩ ⟨3⟩, .removeVertex ⟨2⟩, .createGroup "G" []]

theorem groups_filter_mesh_groupRun :
    Along InRange (.plane "M") groupRun ∧
      ∃ g, (run (.plane "M") groupRun).groups[0]? = some g ∧ g.selection = [⟨3⟩, ⟨1⟩] ∧
        g.edges = [0] ∧ g.DeclaredIn (.plane "M") groupRun := by
  have calls : Along InRange (.plane "M") groupRun := by decide +kernel
  exact ⟨calls, _, rfl, rfl, rfl,
    (groups_filter_mesh (i := 0) (Mesh.new_plane "M") calls rfl).1⟩

end Edit

end FieldMesh

import FieldMesh.Cursor
import FieldMesh.Proofs.Wired

/-! # Reading whole views

A cursor that starts at the first element and takes all that are left yields the snapshots of
its view. On a wired mesh no snapshot is missing, so that the snapshots of the whole mesh are
those of its elements and the snapshots of a group are those of the elements it covers.
-/

namespace FieldMesh

theorem Cursor.takeNext_standing {k : Kind} (h : Handle) (size position n : Nat)
    (hsize : position + n ≤ size) :
    ((⟨some ⟨h, position, size⟩⟩ : Cursor k).takeNext n).1 = h.view.fetchFrom k position n := by
  induction n generalizing position with
  | zero => rfl
  | succ n ih =>
    have hlt : position < size := by omega
    have hget : (⟨some ⟨h, position, size⟩⟩ : Cursor k).get? = h.view.fetch k position := rfl
    have hadvance : (⟨some ⟨h, position, size⟩⟩ : Cursor k).advance =
        ⟨some ⟨h, position + 1, size⟩⟩ := by
      simp only [advance, Option.map_some, if_pos hlt]
    rw [takeNext, next, hget, View.fetchFrom]
    cases h.view.fetch k position with
    | none => rfl
    | some s =>
      dsimp only
      rw [hadvance, ih (position + 1) (by omega)]

/-- Taking all elements from the first on yields the snapshots of the view. -/
theorem Cursor.exhaust_first {k : Kind} (h : Handle) :
    (first h : Cursor k).exhaust.1 = h.view.snapshots k := by
  have hfirst : (first h : Cursor k) = ⟨some ⟨h, 0, h.view.count k⟩⟩ := by
    simp only [first, standing, Nat.zero_min]
  have hremaining : (first h : Cursor k).remaining = h.view.count k := by rw [hfirst]; rfl
  rw [exhaust, hremaining, hfirst]
  exact takeNext_standing h _ 0 _ (by omega)

namespace View

theorem fetchFrom_eq_filterMap {w : View} {k : Kind} {position n : Nat}
    (h : ∀ i, i < n → (w.fetch k (position + i)).isSome = true) :
    w.fetchFrom k position n = (List.range' position n).filterMap (w.fetch k) := by
  induction n generalizing position with
  | zero => rfl
  | succ n ih =>
    obtain ⟨s, hs⟩ := Option.isSome_iff_exists.mp (h 0 (Nat.succ_pos n))
    rw [Nat.add_zero] at hs
    have hrest : w.fetchFrom k (position + 1) n =
        (List.range' (position + 1) n).filterMap (w.fetch k) := by
      refine ih fun i hi => ?_
      rw [Nat.add_assoc, Nat.add_comm 1 i]
      exact h (i + 1) (Nat.succ_lt_succ hi)
    rw [fetchFrom, hs, List.range'_succ, List.filterMap_cons, hs]
    exact congrArg (s :: ·) hrest

/-- If a view reads its elements from a list and none is missing, its snapshots are those of the
list. -/
theorem snapshots_eq_filterMap {α : Type} {w : View} {k : Kind} {xs : List α}
    {read : α → Option Snapshot} (hcount : w.count k = xs.length)
    (hfetch : ∀ i, w.fetch k i = xs[i]?.bind read)
    (hread : ∀ x ∈ xs, (read x).isSome = true) : w.snapshots k = xs.filterMap read := by
  have hall : ∀ i, i < xs.length → (w.fetch k (0 + i)).isSome = true := by
    intro i hi
    rw [Nat.zero_add, hfetch, List.getElem?_eq_getElem hi]
    exact hread _ (List.getElem_mem hi)
  have hlist : (List.range' 0 xs.length).filterMap (xs[·]?) = xs := by
    have h := filterMap_positionsOf (fun _ => true) xs
    rwa [List.filter_true, positionsOf_true] at h
  rw [snapshots, hcount, fetchFrom_eq_filterMap hall]
  have hread : w.fetch k = fun i => xs[i]?.bind read := funext hfetch
  rw [hread, ← List.filterMap_filterMap, hlist]

end View

def Snapshot.within (vs : List VertexId) (s : Snapshot) : Bool :=
  s.corners.all fun c => vs.contains c.id

namespace Mesh

def edgeSnapshot? (m : Mesh) (e : Edge) : Option Snapshot := do
  return .edge (← m.whole.corner? e.first) (← m.whole.corner? e.second)

def triangleSnapshot? (m : Mesh) (t : Triangle) : Option Snapshot := do
  return .triangle (← m.whole.corner? t.first) (← m.whole.corner? t.second)
    (← m.whole.corner? t.third)

theorem Indexed.corner_of_live {m : Mesh} (h : m.Indexed) {v : VertexId} (hv : v ∈ m.ids) :
    ∃ c, m.whole.corner? v = some c ∧ c.id = v := by
  obtain ⟨slot, hslot⟩ := h.mem_ids_iff.mp hv
  have hid := (h.slot_iff v slot).mp hslot
  rw [getElem?_ids] at hid
  obtain ⟨w, hw, rfl⟩ := Option.map_eq_some_iff.mp hid
  refine ⟨⟨w.id, w.coords⟩, ?_, rfl⟩
  simp only [View.corner?, whole, vertex?, hslot, Option.bind_some, hw, Option.map_some]

theorem Indexed.edgeSnapshot {m : Mesh} (h : m.Indexed) {e : Edge} (he : m.Spans e.corners) :
    ∃ s, m.edgeSnapshot? e = some s ∧ s.corners.map (·.id) = e.corners := by
  obtain ⟨a, ha, hfirst⟩ := h.corner_of_live (he.2 e.first (by simp [Edge.corners]))
  obtain ⟨b, hb, hsecond⟩ := h.corner_of_live (he.2 e.second (by simp [Edge.corners]))
  refine ⟨.edge a b, by rw [edgeSnapshot?, ha, hb]; rfl, ?_⟩
  simp only [Snapshot.corners, List.map_cons, List.map_nil, hfirst, hsecond, Edge.corners]

theorem Indexed.triangleSnapshot {m : Mesh} (h : m.Indexed) {t : Triangle}
    (ht : m.Spans t.corners) :
    ∃ s, m.triangleSnapshot? t = some s ∧ s.corners.map (·.id) = t.corners := by
  obtain ⟨a, ha, hfirst⟩ := h.corner_of_live (ht.2 t.first (by simp [Triangle.corners]))
  obtain ⟨b, hb, hsecond⟩ := h.corner_of_live (ht.2 t.second (by simp [Triangle.corners]))
  obtain ⟨c, hc, hthird⟩ := h.corner_of_live (ht.2 t.third (by simp [Triangle.corners]))
  refine ⟨.triangle a b c, by rw [triangleSnapshot?, ha, hb, hc]; rfl, ?_⟩
  simp only [Snapshot.corners, List.map_cons, List.map_nil, hfirst, hsecond, hthird,
    Triangle.corners]

section Elements

variable {α : Type} {xs : List α} {corners : α → List VertexId} {read : α → Option Snapshot}

theorem map_corners_filterMap
    (h : ∀ x ∈ xs, ∃ s, read x = some s ∧ s.corners.map (·.id) = corners x) :
    (xs.filterMap read).map (fun s => s.corners.map (·.id)) = xs.map corners := by
  induction xs with
  | nil => rfl
  | cons x xs ih =>
    obtain ⟨s, hs, hcorners⟩ := h x List.mem_cons_self
    rw [List.filterMap_cons, hs, List.map_cons, List.map_cons, hcorners,
      ih fun y hy => h y (List.mem_cons_of_mem x hy)]

theorem filterMap_filter_covers {g : Group}
    (hg : g.members = Std.ExtTreeSet.ofList g.selection)
    (h : ∀ x ∈ xs, ∃ s, read x = some s ∧ s.corners.map (·.id) = corners x) :
    (xs.filter fun x => g.covers (corners x)).filterMap read =
      (xs.filterMap read).filter (Snapshot.within g.selection) := by
  induction xs with
  | nil => rfl
  | cons x xs ih =>
    obtain ⟨s, hs, hcorners⟩ := h x List.mem_cons_self
    have hrest := ih fun y hy => h y (List.mem_cons_of_mem x hy)
    have hwithin : s.within g.selection = g.covers (corners x) := by
      rw [Bool.eq_iff_iff, Group.covers_iff hg, ← hcorners, Snapshot.within, List.all_eq_true]
      simp
    by_cases hx : g.covers (corners x) = true
    · rw [List.filter_cons_of_pos (p := fun y => g.covers (corners y)) hx, List.filterMap_cons,
        List.filterMap_cons, hs, List.filter_cons_of_pos (hwithin.trans hx), hrest]
    · have hs' : ¬ s.within g.selection = true := hwithin ▸ hx
      rw [List.filter_cons_of_neg (p := fun y => g.covers (corners y)) hx, List.filterMap_cons, hs,
        List.filter_cons_of_neg hs', hrest]

/-- A view that reads the covered elements by their positions shows the snapshots within the
selection. -/
theorem snapshots_eq_filter_within {w : View} {k : Kind} {g : Group} {positions : List Nat}
    (hcount : w.count k = positions.length)
    (hfetch : ∀ i, w.fetch k i = (positions[i]?.bind (xs[·]?)).bind read)
    (hg : g.members = Std.ExtTreeSet.ofList g.selection)
    (hpositions : positions = positionsOf (fun x => g.covers (corners x)) xs)
    (h : ∀ x ∈ xs, ∃ s, read x = some s ∧ s.corners.map (·.id) = corners x) :
    w.snapshots k = (xs.filterMap read).filter (Snapshot.within g.selection) := by
  have hread : w.snapshots k = positions.filterMap fun j => xs[j]?.bind read := by
    refine View.snapshots_eq_filterMap hcount (fun i => ?_) fun j hj => ?_
    · rw [hfetch, Option.bind_assoc]
    · rw [hpositions] at hj
      obtain ⟨x, hx, _⟩ := mem_positionsOf.mp hj
      obtain ⟨s, hs, _⟩ := h x (List.mem_of_getElem? hx)
      rw [hx, Option.bind_some, hs]
      rfl
  rw [hread, ← filterMap_filter_covers hg h, ← List.filterMap_filterMap, hpositions,
    filterMap_positionsOf]

end Elements

namespace Wired

variable {m : Mesh}

theorem snapshots_edges (h : m.Wired) :
    m.whole.snapshots .edge = m.edges.filterMap m.edgeSnapshot? := by
  refine View.snapshots_eq_filterMap rfl (fun _ => rfl) fun e he => ?_
  obtain ⟨s, hs, _⟩ := h.edgeSnapshot (h.edges_span e he)
  exact Option.isSome_iff_exists.mpr ⟨s, hs⟩

theorem snapshots_triangles (h : m.Wired) :
    m.whole.snapshots .triangle = m.triangles.filterMap m.triangleSnapshot? := by
  refine View.snapshots_eq_filterMap rfl (fun _ => rfl) fun t ht => ?_
  obtain ⟨s, hs, _⟩ := h.triangleSnapshot (h.triangles_span t ht)
  exact Option.isSome_iff_exists.mpr ⟨s, hs⟩

theorem snapshots_group_edges (h : m.Wired) {g : Group} (hg : g ∈ m.groups) (i : Nat) :
    (⟨m, some ⟨i, g⟩⟩ : View).snapshots .edge =
      (m.whole.snapshots .edge).filter (Snapshot.within g.selection) := by
  have hfollows := h.groups_follow g hg
  rw [h.snapshots_edges]
  exact snapshots_eq_filter_within rfl (fun _ => rfl) hfollows.members hfollows.edges
    fun e he => h.edgeSnapshot (h.edges_span e he)

theorem snapshots_group_triangles (h : m.Wired) {g : Group} (hg : g ∈ m.groups) (i : Nat) :
    (⟨m, some ⟨i, g⟩⟩ : View).snapshots .triangle =
      (m.whole.snapshots .triangle).filter (Snapshot.within g.selection) := by
  have hfollows := h.groups_follow g hg
  rw [h.snapshots_triangles]
  exact snapshots_eq_filter_within rfl (fun _ => rfl) hfollows.members hfollows.triangles
    fun t ht => h.triangleSnapshot (h.triangles_span t ht)

theorem view_group (h : m.Wired) {g : Group} {i : Nat} (hg : m.groups[i]? = some g) :
    m.view g.name = .ok ⟨m, some ⟨i, g⟩⟩ := by
  have hnames := List.nodup_cons.mp h.nodup_names
  have hmem : g.name ∈ m.groups.map (·.name) :=
    List.mem_map.mpr ⟨g, List.mem_of_getElem? hg, rfl⟩
  have hne : g.name ≠ m.name := fun heq => hnames.1 (heq ▸ hmem)
  have hi : (m.groups.map (·.name))[i]? = some g.name := by rw [List.getElem?_map, hg]; rfl
  have hfind : m.groups.findIdx? (·.name == g.name) = some i := by
    obtain ⟨hlt, rfl⟩ := List.getElem?_eq_some_iff.mp hg
    rw [List.findIdx?_eq_some_iff_getElem]
    refine ⟨hlt, beq_self_eq_true _, fun j hj => ?_⟩
    intro heq
    have hj' : (m.groups.map (·.name))[j]? = some (m.groups[i].name) := by
      rw [List.getElem?_map, List.getElem?_eq_getElem (Nat.lt_trans hj hlt), Option.map_some,
        beq_iff_eq.mp heq]
    have hlen : i < (m.groups.map (·.name)).length := (List.getElem?_eq_some_iff.mp hi).1
    have heq := (List.getElem?_inj hlen hnames.2).mp (hi.trans hj'.symm)
    omega
  simp only [view, if_neg hne, hfind, hg]

end Wired

end Mesh

end FieldMesh

import FieldMesh.Proofs.Positions
import FieldMesh.Proofs.Selections
import Mathlib.Logic.Function.Iterate

/-! # Walks over views

On a reachable mesh every view is complete: what its groups count, its slots and elements can
find. A loop from the first position to the end therefore reads every element once, and so does
taking elements until there are none; each snapshot shows the stored ids of its element at the
present coordinates of their vertices.
-/

namespace FieldMesh

namespace Mesh

/-- The view is handed out under some name: that of the mesh for all of it, that of a group for
the group. -/
def Shows (m : Mesh) (w : View) : Prop := ∃ name, m.view name = .ok w

/-- A corner shows the one vertex of its id where it lies. -/
def Places (m : Mesh) (c : Corner) : Prop :=
  ∀ u : Vertex, u ∈ m.vertices ∧ u.id = c.id ↔ u = ⟨c.id, c.coords⟩

variable {m : Mesh} {w : View}

theorem Shows.cases (h : m.Shows w) :
    w = m.whole ∨ ∃ i g, m.groups[i]? = some g ∧ w = ⟨m, some ⟨i, g⟩⟩ := by
  obtain ⟨name, hview⟩ := h
  unfold view at hview
  split at hview
  · exact .inl (Except.ok.inj hview).symm
  · split at hview
    · exact nomatch hview
    · rename_i i hfind
      split at hview
      · exact nomatch hview
      · rename_i g hg
        exact .inr ⟨i, g, hg, (Except.ok.inj hview).symm⟩

namespace Indexed

theorem places_of_mem (h : m.Indexed) {u : Vertex} (hu : u ∈ m.vertices) :
    m.Places ⟨u.id, u.coords⟩ := by
  intro u'
  constructor
  · rintro ⟨hu', hid⟩
    exact List.inj_on_of_nodup_map h.nodup_ids hu' hu hid
  · rintro rfl
    exact ⟨hu, rfl⟩

theorem vertex?_eq_some (h : m.Indexed) {v : VertexId} {u : Vertex}
    (hu : m.vertex? v = some u) : u ∈ m.vertices ∧ u.id = v := by
  obtain ⟨slot, hslot, hget⟩ := Option.bind_eq_some_iff.mp hu
  have hid := (h.slot_iff v slot).mp hslot
  rw [getElem?_ids, hget] at hid
  exact ⟨List.mem_of_getElem? hget, Option.some.inj hid⟩

theorem places_of_corner? (h : m.Indexed) {v : VertexId} {c : Corner}
    (hc : m.whole.corner? v = some c) : m.Places c := by
  obtain ⟨u, hu, rfl⟩ := Option.map_eq_some_iff.mp hc
  obtain ⟨hmem, rfl⟩ := h.vertex?_eq_some hu
  exact h.places_of_mem hmem

end Indexed

end Mesh

/-- A snapshot of some corners: their ids in order, each where its vertex lies. -/
def Snapshot.Depicts (s : Snapshot) (m : Mesh) (vs : List VertexId) : Prop :=
  s.corners.map (·.id) = vs ∧ ∀ c ∈ s.corners, m.Places c

def View.stored? (w : View) (k : Kind) (position : Nat) : Option (List VertexId) :=
  match k with
  | .vertex =>
    match w.subset with
    | some s => s.group.selection[position]?.map fun v => [v]
    | none => w.mesh.vertices[position]?.map fun u => [u.id]
  | .edge => (w.edgeAt position).map Edge.corners
  | .triangle => (w.triangleAt position).map Triangle.corners

theorem exists_of_lt_positionsOf {α : Type} {p : α → Bool} {xs : List α} {i : Nat}
    (hi : i < (positionsOf p xs).length) :
    ∃ x ∈ xs, (positionsOf p xs)[i]?.bind (xs[·]?) = some x := by
  obtain ⟨x, hx, _⟩ := mem_positionsOf.mp (List.getElem_mem hi)
  exact ⟨x, List.mem_of_getElem? hx, by rw [List.getElem?_eq_getElem hi, Option.bind_some, hx]⟩

namespace Mesh

namespace Wired

variable {m : Mesh} {w : View} {p : Nat}

theorem edgeAt_of_lt (h : m.Wired) (hw : m.Shows w) (hp : p < w.count .edge) :
    ∃ e ∈ m.edges, w.edgeAt p = some e := by
  rcases hw.cases with rfl | ⟨i, g, hg, rfl⟩
  · exact ⟨m.edges[p], List.getElem_mem hp, List.getElem?_eq_getElem hp⟩
  · have hedges := (h.groups_follow g (List.mem_of_getElem? hg)).edges
    simp only [View.count, hedges] at hp
    simp only [View.edgeAt, hedges]
    exact exists_of_lt_positionsOf hp

theorem triangleAt_of_lt (h : m.Wired) (hw : m.Shows w) (hp : p < w.count .triangle) :
    ∃ t ∈ m.triangles, w.triangleAt p = some t := by
  rcases hw.cases with rfl | ⟨i, g, hg, rfl⟩
  · exact ⟨m.triangles[p], List.getElem_mem hp, List.getElem?_eq_getElem hp⟩
  · have htriangles := (h.groups_follow g (List.mem_of_getElem? hg)).triangles
    simp only [View.count, htriangles] at hp
    simp only [View.triangleAt, htriangles]
    exact exists_of_lt_positionsOf hp

theorem depicts_edge (h : m.Wired) {e : Edge} (he : e ∈ m.edges) :
    ∃ s, m.edgeSnapshot? e = some s ∧ s.Depicts m e.corners := by
  obtain ⟨s, hs, hcorners⟩ := h.edgeSnapshot (h.edges_span e he)
  refine ⟨s, hs, hcorners, ?_⟩
  obtain ⟨a, ha, hs⟩ := Option.bind_eq_some_iff.mp hs
  obtain ⟨b, hb, hs⟩ := Option.bind_eq_some_iff.mp hs
  cases hs
  simp [Snapshot.corners, h.places_of_corner? ha, h.places_of_corner? hb]

theorem depicts_triangle (h : m.Wired) {t : Triangle} (ht : t ∈ m.triangles) :
    ∃ s, m.triangleSnapshot? t = some s ∧ s.Depicts m t.corners := by
  obtain ⟨s, hs, hcorners⟩ := h.triangleSnapshot (h.triangles_span t ht)
  refine ⟨s, hs, hcorners, ?_⟩
  obtain ⟨a, ha, hs⟩ := Option.bind_eq_some_iff.mp hs
  obtain ⟨b, hb, hs⟩ := Option.bind_eq_some_iff.mp hs
  obtain ⟨c, hc, hs⟩ := Option.bind_eq_some_iff.mp hs
  cases hs
  simp [Snapshot.corners, h.places_of_corner? ha, h.places_of_corner? hb,
    h.places_of_corner? hc]

/-- At every position that is counted there is a snapshot, and it shows what is stored there. -/
theorem fetch_of_lt (h : m.Wired) (hw : m.Shows w) {k : Kind} (hp : p < w.count k) :
    ∃ s vs, w.fetch k p = some s ∧ w.stored? k p = some vs ∧ s.Depicts m vs := by
  have hmesh : w.mesh = m := by
    rcases hw.cases with rfl | ⟨i, g, _, rfl⟩ <;> rfl
  cases k with
  | vertex =>
    rcases hw.cases with rfl | ⟨i, g, hg, rfl⟩
    · change p < m.vertices.length at hp
      have hget : m.vertices[p]? = some m.vertices[p] := List.getElem?_eq_getElem hp
      refine ⟨.vertex ⟨m.vertices[p].id, m.vertices[p].coords⟩, [m.vertices[p].id], ?_, ?_, rfl, ?_⟩
      · simp [View.fetch, View.vertexAt, whole, hget]
      · simp [View.stored?, whole, hget]
      · simpa [Snapshot.corners] using h.places_of_mem (List.getElem_mem hp)
    · change p < g.selection.length at hp
      have hget : g.selection[p]? = some g.selection[p] := List.getElem?_eq_getElem hp
      have hlive := (h.groups_follow g (List.mem_of_getElem? hg)).live _ (List.getElem_mem hp)
      obtain ⟨c, hc, _⟩ := h.corner_of_live hlive
      obtain ⟨u, hu, _⟩ := Option.map_eq_some_iff.mp hc
      change m.vertex? _ = some u at hu
      obtain ⟨hmem, hid⟩ := h.vertex?_eq_some hu
      refine ⟨.vertex ⟨u.id, u.coords⟩, [g.selection[p]], ?_, ?_, ?_, ?_⟩
      · simp [View.fetch, View.vertexAt, hget, hu]
      · simp [View.stored?, hget]
      · simp [Snapshot.corners, hid]
      · simpa [Snapshot.corners] using h.places_of_mem hmem
  | edge =>
    obtain ⟨e, he, hat⟩ := h.edgeAt_of_lt hw hp
    obtain ⟨s, hs, hdepicts⟩ := h.depicts_edge he
    refine ⟨s, e.corners, ?_, by rw [View.stored?, hat]; rfl, hdepicts⟩
    change (w.edgeAt p).bind w.mesh.edgeSnapshot? = _
    rw [hat, hmesh, Option.bind_some, hs]
  | triangle =>
    obtain ⟨t, ht, hat⟩ := h.triangleAt_of_lt hw hp
    obtain ⟨s, hs, hdepicts⟩ := h.depicts_triangle ht
    refine ⟨s, t.corners, ?_, by rw [View.stored?, hat]; rfl, hdepicts⟩
    change (w.triangleAt p).bind w.mesh.triangleSnapshot? = _
    rw [hat, hmesh, Option.bind_some, hs]

theorem complete (h : m.Wired) (hw : m.Shows w) (k : Kind) : w.Complete k := by
  intro p hp
  obtain ⟨s, _, hs, _⟩ := h.fetch_of_lt hw hp
  exact Option.isSome_iff_exists.mpr ⟨s, hs⟩

end Wired

end Mesh

namespace Cursor

variable {k : Kind} {h : Handle} {stop c d e : Cursor k}

/-- The loop that reads a cursor and moves it on until it equals another one, and what it reads. -/
inductive Walks (stop : Cursor k) : Cursor k → List (Option Snapshot) → Prop
  | arrived {c : Cursor k} (equal : (c == stop) = true) : Walks stop c []
  | onward {c : Cursor k} {reads : List (Option Snapshot)} (apart : (c == stop) = false)
      (rest : Walks stop c.advance reads) : Walks stop c (c.get? :: reads)

/-- The loop that takes elements until there is none, what it takes and the cursor it leaves. -/
inductive Drains : Cursor k → List Snapshot → Cursor k → Prop
  | empty {c d : Cursor k} (none : c.next = (none, d)) : Drains c [] d
  | taken {c d e : Cursor k} {s : Snapshot} {ss : List Snapshot} (some : c.next = (some s, d))
      (rest : Drains d ss e) : Drains c (s :: ss) e

theorem Walks.unique {xs ys : List (Option Snapshot)} (hx : Walks stop c xs)
    (hy : Walks stop c ys) : xs = ys := by
  induction hx generalizing ys with
  | arrived equal =>
    cases hy with
    | arrived _ => rfl
    | onward apart _ => exact absurd (equal.symm.trans apart) (by decide)
  | onward apart _ ih =>
    cases hy with
    | arrived equal => exact absurd (equal.symm.trans apart) (by decide)
    | onward _ rest => rw [ih rest]

theorem Drains.unique {xs ys : List Snapshot} (hx : Drains c xs d) (hy : Drains c ys e) :
    xs = ys ∧ d = e := by
  induction hx generalizing ys with
  | empty none =>
    cases hy with
    | empty none' => exact ⟨rfl, congrArg Prod.snd (none.symm.trans none')⟩
    | taken some _ => exact nomatch congrArg Prod.fst (none.symm.trans some)
  | taken some _ ih =>
    cases hy with
    | empty none => exact nomatch congrArg Prod.fst (some.symm.trans none)
    | taken some' rest =>
      cases some.symm.trans some'
      obtain ⟨hss, hd⟩ := ih rest
      exact ⟨by rw [hss], hd⟩

theorem next_iterate_of_none (hc : c.next.1 = none) (n : Nat) :
    ((fun d : Cursor k => d.next.2)^[n] c).next.1 = none := by
  have hstays : c.next = (none, c) := next_of_none (get?_of_next hc)
  have hiterate : (fun d : Cursor k => d.next.2)^[n] c = c := by
    induction n with
    | zero => rfl
    | succ n ih => rw [Function.iterate_succ_apply, hstays, ih]
  rw [hiterate, hc]

section Complete

variable (hc : h.view.Complete k)

include hc

/-- From any position the loop to the end reads each element that is left, and nothing else. -/
theorem walks_standing_iff {p : Nat} {reads : List (Option Snapshot)} :
    Walks (last h) (standing h p : Cursor k) reads ↔
      reads = ((h.view.snapshots k).drop p).map some := by
  suffices hwalks : Walks (last h) (standing h p : Cursor k)
      (((h.view.snapshots k).drop p).map some) from
    ⟨fun hreads => hreads.unique hwalks, fun hreads => hreads ▸ hwalks⟩
  have hlength := hc.length_snapshots
  induction hn : h.view.count k - p generalizing p with
  | zero =>
    rw [List.drop_of_length_le (by omega)]
    exact .arrived (standing_beq_last.mpr (by omega))
  | succ n ih =>
    have hp : p < (h.view.snapshots k).length := by omega
    have hget : (standing h p : Cursor k).get? = some (h.view.snapshots k)[p] := by
      rw [get?_standing, ← hc.getElem?_snapshots, List.getElem?_eq_getElem hp]
    have hapart : ((standing h p : Cursor k) == last h) = false := by
      rw [Bool.eq_false_iff, ne_eq, standing_beq_last]
      omega
    have hrest := Walks.onward hapart ((advance_standing h p).symm ▸ ih (by omega))
    rwa [hget, ← List.map_cons, ← List.drop_eq_getElem_cons hp] at hrest

theorem drains_standing_iff {p : Nat} {ss : List Snapshot} {d : Cursor k} :
    Drains (standing h p) ss d ↔ ss = (h.view.snapshots k).drop p ∧ d = last h := by
  suffices hdrains : Drains (standing h p : Cursor k) ((h.view.snapshots k).drop p) (last h) by
    refine ⟨fun hss => hss.unique hdrains, ?_⟩
    rintro ⟨rfl, rfl⟩
    exact hdrains
  have hlength := hc.length_snapshots
  induction hn : h.view.count k - p generalizing p with
  | zero =>
    have hnext := next_standing hc p
    rw [List.getElem?_eq_none (by omega), standing_of_le (p := p + 1) (by omega)] at hnext
    rw [List.drop_of_length_le (by omega)]
    exact .empty hnext
  | succ n ih =>
    have hp : p < (h.view.snapshots k).length := by omega
    have hnext := next_standing hc p
    rw [List.getElem?_eq_getElem hp] at hnext
    rw [List.drop_eq_getElem_cons hp]
    exact .taken hnext (ih (by omega))

end Complete

end Cursor

/-- On a reachable mesh every walk over a view is complete and exact. There is a snapshot at each
position that is counted and at no other, and it shows the element stored there; the loop from the
first position to the end reads these snapshots in order, one at each step; taking elements from
any position yields those that are left, as many as were announced; and a cursor that has had
nothing to take never has again. -/
theorem Mesh.walks_complete {m : Mesh} (hm : m.Reachable) {w : View} (hw : m.Shows w)
    (key : MeshKey) (k : Kind) :
    (∀ p, (w.fetch k p).isSome = true ↔ p < w.count k) ∧
    (∀ p s, w.fetch k p = some s → ∃ vs, w.stored? k p = some vs ∧ s.Depicts m vs) ∧
    ∃ items : List Snapshot, items.length = w.count k ∧ (∀ p, items[p]? = w.fetch k p) ∧
      (∀ reads, Cursor.Walks (.last ⟨key, w⟩) (.first ⟨key, w⟩ : Cursor k) reads ↔
        reads = items.map some) ∧
      (∀ p ss d, Cursor.Drains (.standing ⟨key, w⟩ p : Cursor k) ss d ↔
        ss = items.drop p ∧ d = .last ⟨key, w⟩) ∧
      (∀ p, (Cursor.standing ⟨key, w⟩ p : Cursor k).remaining = (items.drop p).length) ∧
      ∀ c : Cursor k, c.next.1 = none → ∀ n, ((fun d => d.next.2)^[n] c).next.1 = none := by
  have hwired : m.Wired := .of_reachable hm
  have hc : w.Complete k := hwired.complete hw k
  refine ⟨hc.isSome_fetch_iff, ?_, w.snapshots k, hc.length_snapshots, hc.getElem?_snapshots,
    fun reads => Cursor.walks_standing_iff (h := ⟨key, w⟩) hc,
    fun p ss d => Cursor.drains_standing_iff (h := ⟨key, w⟩) hc, ?_,
    fun c hnone n => Cursor.next_iterate_of_none hnone n⟩
  · intro p s hs
    have hp : p < w.count k := (hc.isSome_fetch_iff p).mp (by rw [hs]; rfl)
    obtain ⟨s', vs, hs', hstored, hdepicts⟩ := hwired.fetch_of_lt hw hp
    cases hs.symm.trans hs'
    exact ⟨vs, hstored, hdepicts⟩
  · intro p
    rw [Cursor.remaining_standing, List.length_drop, hc.length_snapshots]

/-- The group of the run keeps one of the edges that were made on either side of it. -/
theorem Mesh.walks_complete_groupRun :
    (Edit.run (.plane "M") Edit.groupRun).Reachable ∧
      ∃ w, (Edit.run (.plane "M") Edit.groupRun).Shows w ∧ w.subset.isSome = true ∧
        w.stored? .edge 0 = some [⟨1⟩, ⟨3⟩] ∧
        ∃ items : List Snapshot, items.length = 1 ∧
          Cursor.Walks (.last ⟨⟨0⟩, w⟩) (.first ⟨⟨0⟩, w⟩ : Cursor .edge) (items.map some) := by
  have calls : Edit.Along Edit.InRange (.plane "M") Edit.groupRun := by decide +kernel
  have hm : (Edit.run (.plane "M") Edit.groupRun).Reachable :=
    ⟨"M", 2, .plane "M", Edit.groupRun, rfl, calls, rfl⟩
  have hw : (Edit.run (.plane "M") Edit.groupRun).Shows _ := ⟨"G", rfl⟩
  obtain ⟨_, _, items, hlength, _, hwalks, _⟩ := walks_complete hm hw ⟨0⟩ .edge
  exact ⟨hm, _, hw, rfl, rfl, items, hlength, (hwalks _).mpr rfl⟩

end FieldMesh

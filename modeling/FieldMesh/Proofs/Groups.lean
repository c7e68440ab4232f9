import FieldMesh.Proofs.Slots
import Mathlib.Data.List.Induction

/-! # Groups and the mesh

A group follows its mesh when its selection is live, its members are its selection and its
positions are those of the elements whose corners are all selected. Offering it a new element
keeps this up as well as counting all elements anew does.
-/

namespace FieldMesh

section Positions

variable {α : Type} {p : α → Bool} {xs : List α}

theorem mem_positionsOf {i : Nat} :
    i ∈ positionsOf p xs ↔ ∃ x, xs[i]? = some x ∧ p x = true := by
  unfold positionsOf
  simp only [List.mem_filterMap, Prod.exists, List.mem_zipIdx_iff_getElem?]
  constructor
  · rintro ⟨x, j, hx, hi⟩
    split at hi <;> rename_i hp
    · cases hi
      exact ⟨x, hx, hp⟩
    · exact nomatch hi
  · rintro ⟨x, hx, hp⟩
    exact ⟨x, i, hx, by rw [if_pos hp]⟩

theorem positionsOf_append_singleton (p : α → Bool) (xs : List α) (x : α) :
    positionsOf p (xs ++ [x]) = if p x then positionsOf p xs ++ [xs.length] else positionsOf p xs := by
  unfold positionsOf
  rw [List.zipIdx_append, List.filterMap_append]
  by_cases hp : p x = true <;> simp [hp]

theorem positionsOf_true (xs : List α) :
    positionsOf (fun _ => true) xs = List.range' 0 xs.length := by
  simp only [positionsOf, if_true]
  rw [List.filterMap_eq_map']
  exact List.zipIdx_map_snd 0 xs

theorem positionsOf_map {β : Type} (q : β → Bool) (f : α → β) (xs : List α) :
    positionsOf q (xs.map f) = positionsOf (fun x => q (f x)) xs := by
  unfold positionsOf
  rw [List.zipIdx_map, List.filterMap_map]
  rfl

theorem pairwise_positionsOf (p : α → Bool) (xs : List α) :
    (positionsOf p xs).Pairwise (· < ·) := by
  unfold positionsOf
  rw [List.pairwise_filterMap]
  have hindices : xs.zipIdx.Pairwise fun a b => a.2 < b.2 := by
    rw [← List.pairwise_map (f := Prod.snd) (R := (· < ·)), List.zipIdx_map_snd]
    exact List.pairwise_lt_range'
  refine hindices.imp ?_
  rintro ⟨x, i⟩ ⟨y, j⟩ hij a ha b hb
  simp only [Option.ite_none_right_eq_some, Option.some.injEq] at ha hb
  rw [← ha.2, ← hb.2]
  exact hij

theorem filterMap_positionsOf (p : α → Bool) (xs : List α) :
    (positionsOf p xs).filterMap (xs[·]?) = xs.filter p := by
  induction xs using List.reverseRecOn with
  | nil => rfl
  | append_singleton xs x ih =>
    have hold : (positionsOf p xs).filterMap ((xs ++ [x])[·]?) = xs.filter p := by
      rw [← ih]
      apply List.filterMap_congr
      intro i hi
      obtain ⟨y, hy, _⟩ := mem_positionsOf.mp hi
      exact List.getElem?_append_left (List.getElem?_eq_some_iff.mp hy).1
    rw [positionsOf_append_singleton, List.filter_append]
    by_cases hp : p x = true
    · rw [if_pos hp, List.filterMap_append, hold]
      simp [hp]
    · rw [if_neg hp, hold]
      simp [hp]

end Positions

namespace Group

/-- The selection is live and the members and positions belong to it. -/
structure Follows (g : Group) (m : Mesh) : Prop where
  nodup : g.selection.Nodup
  live : ∀ v ∈ g.selection, v ∈ m.ids
  members : g.members = Std.ExtTreeSet.ofList g.selection
  edges : g.edges = positionsOf (fun e => g.covers e.corners) m.edges
  triangles : g.triangles = positionsOf (fun t => g.covers t.corners) m.triangles

theorem contains_iff {g : Group} (h : g.members = Std.ExtTreeSet.ofList g.selection)
    {v : VertexId} : g.contains v = true ↔ v ∈ g.selection := by
  unfold contains
  rw [h, Std.ExtTreeSet.contains_ofList, List.contains_iff_mem]

theorem covers_iff {g : Group} (h : g.members = Std.ExtTreeSet.ofList g.selection)
    {corners : List VertexId} : g.covers corners = true ↔ ∀ v ∈ corners, v ∈ g.selection := by
  unfold covers
  rw [List.all_eq_true]
  exact forall₂_congr fun v _ => contains_iff h

theorem follows_refilter {g : Group} {m : Mesh} {live : VertexId → Bool}
    (nodup : g.selection.Nodup) (hlive : ∀ v ∈ g.selection, live v = true → v ∈ m.ids) :
    (g.refilter live m.edges m.triangles).Follows m := by
  refine ⟨nodup.filter _, ?_, rfl, rfl, rfl⟩
  intro v hv
  rw [selection_refilter, List.mem_filter] at hv
  exact hlive v hv.1 hv.2

namespace Follows

variable {g : Group} {m n : Mesh}

/-- Only ids and elements of the mesh matter to a group. -/
theorem of_more_ids (h : g.Follows m) (hids : ∀ v ∈ m.ids, v ∈ n.ids) (hedges : n.edges = m.edges)
    (htriangles : n.triangles = m.triangles) : g.Follows n :=
  ⟨h.nodup, fun v hv => hids v (h.live v hv), h.members, hedges ▸ h.edges,
    htriangles ▸ h.triangles⟩

theorem offerEdge (h : g.Follows m) (e : Edge) :
    (g.offerEdge m.edges.length e).Follows { m with edges := m.edges ++ [e] } := by
  have hpositions := positionsOf_append_singleton (fun e => g.covers e.corners) m.edges e
  unfold Group.offerEdge
  by_cases he : g.covers e.corners = true
  · rw [if_pos he] at hpositions ⊢
    exact ⟨h.nodup, h.live, h.members, by rw [h.edges]; exact hpositions.symm, h.triangles⟩
  · rw [if_neg he] at hpositions ⊢
    exact ⟨h.nodup, h.live, h.members, h.edges.trans hpositions.symm, h.triangles⟩

theorem offerTriangle (h : g.Follows m) (t : Triangle) :
    (g.offerTriangle m.triangles.length t).Follows
      { m with triangles := m.triangles ++ [t] } := by
  have hpositions :=
    positionsOf_append_singleton (fun t => g.covers t.corners) m.triangles t
  unfold Group.offerTriangle
  by_cases ht : g.covers t.corners = true
  · rw [if_pos ht] at hpositions ⊢
    exact ⟨h.nodup, h.live, h.members, h.edges, by rw [h.triangles]; exact hpositions.symm⟩
  · rw [if_neg ht] at hpositions ⊢
    exact ⟨h.nodup, h.live, h.members, h.edges, h.triangles.trans hpositions.symm⟩

end Follows

@[simp] theorem name_offerEdge (g : Group) (i : Nat) (e : Edge) :
    (g.offerEdge i e).name = g.name := by
  unfold offerEdge
  split <;> rfl

@[simp] theorem name_offerTriangle (g : Group) (i : Nat) (t : Triangle) :
    (g.offerTriangle i t).name = g.name := by
  unfold offerTriangle
  split <;> rfl

@[simp] theorem selection_offerEdge (g : Group) (i : Nat) (e : Edge) :
    (g.offerEdge i e).selection = g.selection := by
  unfold offerEdge
  split <;> rfl

@[simp] theorem selection_offerTriangle (g : Group) (i : Nat) (t : Triangle) :
    (g.offerTriangle i t).selection = g.selection := by
  unfold offerTriangle
  split <;> rfl

end Group

end FieldMesh

import FieldMesh.Proofs.Sound
import FieldMesh.Proofs.Walks
import FieldMesh.VertexArea

/-! # Areas around vertices

The areas are computed by handing out the share of each element to its corners, one element after
the other. Seen from a vertex this gathers the shares of the elements at it: additions to the sums
of other vertices do not touch its own, so that its sum runs over its elements alone, in the order
in which they are stored.
-/

namespace FieldMesh

def Snapshot.touches (s : Snapshot) (v : VertexId) : Bool := (s.corners.map (·.id)).contains v

namespace Mesh

section Sums

variable {m : Mesh} {v : VertexId} {slot : Nat}

@[simp] theorem length_addShare (m : Mesh) (share : Float) (sums : List Float) (v : VertexId) :
    (m.addShare share sums v).length = sums.length := by
  unfold addShare
  split
  · rfl
  · exact List.length_modify ..

/-- A share goes to the sum at the slot of its vertex and to no other. -/
theorem Indexed.getElem?_addShare (h : m.Indexed) (hs : m.slots[v]? = some slot) (share : Float)
    (sums : List Float) (w : VertexId) :
    (m.addShare share sums w)[slot]? =
      if w = v then sums[slot]?.map (· + share) else sums[slot]? := by
  unfold addShare
  by_cases hw : w = v
  · rw [hw, hs, if_pos rfl]
    exact List.getElem?_modify_eq ..
  · rw [if_neg hw]
    split
    · rfl
    · rename_i other hother
      have hne : other ≠ slot := by
        intro heq
        have hv := (h.slot_iff v slot).mp hs
        rw [← heq, (h.slot_iff w other).mp hother] at hv
        exact hw (Option.some.inj hv)
      exact List.getElem?_modify_ne _ _ hne

theorem Indexed.getElem?_addShares (h : m.Indexed) (hs : m.slots[v]? = some slot) (s : Snapshot)
    (distinct : (s.corners.map (·.id)).Nodup) (sums : List Float) :
    (m.addShares sums s)[slot]? =
      if s.touches v then sums[slot]?.map (· + s.share) else sums[slot]? := by
  unfold addShares Snapshot.touches
  generalize s.corners = cs at distinct
  induction cs generalizing sums with
  | nil => rfl
  | cons c cs ih =>
    rw [List.map_cons, List.nodup_cons] at distinct
    rw [List.foldl_cons, ih _ distinct.2, h.getElem?_addShare hs, List.map_cons, List.contains_cons]
    by_cases hc : c.id = v
    · have hrest : (cs.map (·.id)).contains v = false := by simpa [hc] using distinct.1
      rw [hrest, if_pos hc, hc, beq_self_eq_true]
      rfl
    · have hfirst : (v == c.id) = false := beq_eq_false_iff_ne.mpr (Ne.symm hc)
      rw [if_neg hc, hfirst, Bool.false_or]

/-- The sum of a vertex runs over the elements at it, in their order. -/
theorem Indexed.getElem?_foldl_addShares (h : m.Indexed) (hs : m.slots[v]? = some slot)
    {ss : List Snapshot} (distinct : ∀ s ∈ ss, (s.corners.map (·.id)).Nodup)
    (sums : List Float) :
    (ss.foldl m.addShares sums)[slot]? =
      sums[slot]?.map (((ss.filter (·.touches v)).map (·.share)).foldl (· + ·)) := by
  induction ss generalizing sums with
  | nil => simp
  | cons s ss ih =>
    rw [List.foldl_cons, ih (fun x hx => distinct x (List.mem_cons_of_mem s hx)),
      h.getElem?_addShares hs s (distinct s List.mem_cons_self)]
    by_cases hv : s.touches v = true
    · rw [if_pos hv, List.filter_cons_of_pos (p := fun x : Snapshot => x.touches v) hv,
        Option.map_map]
      rfl
    · rw [if_neg hv, List.filter_cons_of_neg (p := fun x : Snapshot => x.touches v) hv]

theorem length_foldl_addShares (ss : List Snapshot) (sums : List Float) :
    (ss.foldl m.addShares sums).length = sums.length := by
  have hone : ∀ (s : Snapshot) (sums : List Float), (m.addShares sums s).length = sums.length := by
    intro s sums
    unfold addShares
    generalize s.corners = cs
    induction cs generalizing sums with
    | nil => rfl
    | cons c cs ih => rw [List.foldl_cons, ih, length_addShare]
  induction ss generalizing sums with
  | nil => rfl
  | cons s ss ih => rw [List.foldl_cons, ih, hone]

end Sums

/-! ## Elements and their snapshots -/

section Elements

variable {m : Mesh} {α : Type} {xs : List α} {corners : α → List VertexId}
  {read : α → Option Snapshot} {gives : α → Float → Prop} {v : VertexId}

end Elements

namespace Wired

variable {m : Mesh}

end Wired

end Mesh

end FieldMesh

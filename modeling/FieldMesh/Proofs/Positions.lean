import FieldMesh.Proofs.Snapshots

/-! # Cursors by their positions

A view is complete in a kind if it has a snapshot at every position that it counts. A cursor on
such a view is a position in the list of its snapshots: what it reads, where it goes and how much
it has left are read off the list. Positions behind the end need no care, since a cursor that is
made there stands at the end.
-/

namespace FieldMesh

namespace View

variable {w : View} {k : Kind}

/-- No snapshot is missing among those that are counted. -/
def Complete (w : View) (k : Kind) : Prop := ∀ p, p < w.count k → (w.fetch k p).isSome = true

theorem fetch_of_le {p : Nat} (hp : w.count k ≤ p) : w.fetch k p = none := by
  cases k <;> cases hw : w.subset <;>
    simp only [count, hw] at hp <;>
    simp [fetch, vertexAt, edgeAt, triangleAt, hw, List.getElem?_eq_none hp]

theorem map_some_fetchFrom {position n : Nat}
    (h : ∀ i, i < n → (w.fetch k (position + i)).isSome = true) :
    (w.fetchFrom k position n).map some = (List.range' position n).map (w.fetch k) := by
  induction n generalizing position with
  | zero => rfl
  | succ n ih =>
    obtain ⟨s, hs⟩ := Option.isSome_iff_exists.mp (h 0 (by omega))
    have hrest : ∀ i, i < n → (w.fetch k (position + 1 + i)).isSome = true := by
      intro i hi
      have := h (i + 1) (by omega)
      rwa [show position + (i + 1) = position + 1 + i by omega] at this
    rw [Nat.add_zero] at hs
    rw [fetchFrom, hs, List.range'_succ, List.map_cons, List.map_cons, hs, ih hrest]

namespace Complete

theorem map_some_snapshots (h : w.Complete k) :
    (w.snapshots k).map some = (List.range' 0 (w.count k)).map (w.fetch k) :=
  map_some_fetchFrom fun i hi => by simpa using h i hi

theorem length_snapshots (h : w.Complete k) : (w.snapshots k).length = w.count k := by
  simpa using congrArg List.length h.map_some_snapshots

theorem getElem?_snapshots (h : w.Complete k) (p : Nat) :
    (w.snapshots k)[p]? = w.fetch k p := by
  rcases Nat.lt_or_ge p (w.count k) with hp | hp
  · have hget := congrArg (·[p]?) h.map_some_snapshots
    obtain ⟨s, hs⟩ := Option.isSome_iff_exists.mp (h p hp)
    simpa [hp, hs] using hget
  · rw [fetch_of_le hp, List.getElem?_eq_none (by rw [h.length_snapshots]; exact hp)]

theorem isSome_fetch_iff (h : w.Complete k) (p : Nat) :
    (w.fetch k p).isSome = true ↔ p < w.count k := by
  refine ⟨fun hs => ?_, h p⟩
  by_contra hp
  rw [fetch_of_le (by omega)] at hs
  exact Bool.false_ne_true hs

end Complete

end View

namespace Cursor

variable {k : Kind} {h : Handle}

theorem place_standing (h : Handle) (p : Nat) :
    (standing h p : Cursor k).place = some ⟨h, min p (h.view.count k), h.view.count k⟩ := rfl

theorem standing_of_le {p : Nat} (hp : h.view.count k ≤ p) :
    (standing h p : Cursor k) = last h := by
  simp [standing, last, hp]

theorem standing_min (h : Handle) (p : Nat) :
    (standing h (min p (h.view.count k)) : Cursor k) = standing h p := by
  simp [standing]

theorem position?_standing (h : Handle) (p : Nat) :
    (standing h p : Cursor k).position? = some (min p (h.view.count k)) := rfl

theorem remaining_standing (h : Handle) (p : Nat) :
    (standing h p : Cursor k).remaining = h.view.count k - p := by
  simp only [remaining, place_standing, Option.map_some, Option.getD_some]
  omega

theorem advance_standing (h : Handle) (p : Nat) :
    (standing h p : Cursor k).advance = standing h (p + 1) := by
  simp only [standing, advance, Option.map_some]
  congr 3
  split <;> omega

theorem advanceBy_standing (h : Handle) (p n : Nat) :
    (standing h p : Cursor k).advanceBy n = standing h (p + n) := by
  induction n generalizing p with
  | zero => rfl
  | succ n ih =>
    rw [advanceBy, advance_standing, ih]
    congr 1
    omega

theorem advanceBy_singular (n : Nat) : (singular : Cursor k).advanceBy n = singular := by
  induction n with
  | zero => rfl
  | succ n ih => rw [advanceBy, advance_singular, ih]

theorem get?_standing (h : Handle) (p : Nat) :
    (standing h p : Cursor k).get? = h.view.fetch k p := by
  change h.view.fetch k (min p (h.view.count k)) = _
  rcases Nat.le_total p (h.view.count k) with hp | hp
  · rw [Nat.min_eq_left hp]
  · rw [Nat.min_eq_right hp, View.fetch_of_le (Nat.le_refl _), View.fetch_of_le hp]

theorem beq_standing (h i : Handle) (p q : Nat) :
    ((standing h p : Cursor k) == standing i q) =
      (min p (h.view.count k) == min q (i.view.count k) && h.same i) := rfl

theorem standing_beq_last {p : Nat} :
    ((standing h p : Cursor k) == last h) = true ↔ h.view.count k ≤ p := by
  have hsame : h.same h = true := Handle.same_iff.mpr ⟨rfl, rfl⟩
  rw [last, beq_standing, hsame, Bool.and_true, beq_iff_eq]
  omega

theorem next_of_none {c : Cursor k} (hc : c.get? = none) : c.next = (none, c) := by
  simp only [next, hc]

theorem get?_of_next {c : Cursor k} (hc : c.next.1 = none) : c.get? = none := by
  cases hget : c.get? with
  | none => rfl
  | some s =>
    simp only [next, hget] at hc
    cases hc

section Complete

variable (hc : h.view.Complete k)

include hc

theorem next_standing (p : Nat) :
    (standing h p : Cursor k).next = ((h.view.snapshots k)[p]?, standing h (p + 1)) := by
  have hget := get?_standing (k := k) h p
  rw [hc.getElem?_snapshots]
  cases hs : h.view.fetch k p with
  | none =>
    rw [hs] at hget
    have hp : h.view.count k ≤ p := by
      by_contra hlt
      have := hc p (by omega)
      rw [hs] at this
      exact Bool.false_ne_true this
    rw [next_of_none hget, standing_of_le hp, standing_of_le (by omega)]
  | some s =>
    rw [hs] at hget
    simp only [next, hget, advance_standing]

theorem nth_standing (p n : Nat) :
    (standing h p : Cursor k).nth n =
      ((h.view.snapshots k)[p + n]?, standing h (p + n + 1)) := by
  induction n generalizing p with
  | zero => exact next_standing hc p
  | succ n ih =>
    rw [nth, next_standing hc]
    have hgoal := ih (p + 1)
    rw [show p + 1 + n = p + (n + 1) by omega] at hgoal
    cases hs : (h.view.snapshots k)[p]? with
    | some s => exact hgoal
    | none =>
      -- Nothing is left, here and further on, so that both cursors stand at the end.
      have hp : (h.view.snapshots k).length ≤ p := List.getElem?_eq_none_iff.mp hs
      have hcount := hc.length_snapshots
      simp only [List.getElem?_eq_none (show (h.view.snapshots k).length ≤ p + (n + 1) by omega)]
      rw [standing_of_le (by omega), standing_of_le (by omega)]

theorem takeNext_of_complete (p n : Nat) :
    (standing h p : Cursor k).takeNext n =
      (((h.view.snapshots k).drop p).take n, standing h (p + n)) := by
  induction n generalizing p with
  | zero => simp [takeNext]
  | succ n ih =>
    rw [takeNext, next_standing hc]
    cases hs : (h.view.snapshots k)[p]? with
    | some s =>
      obtain ⟨hp, rfl⟩ := List.getElem?_eq_some_iff.mp hs
      simp only [ih (p + 1), List.drop_eq_getElem_cons hp, List.take_succ_cons]
      rw [show p + 1 + n = p + (n + 1) by omega]
    | none =>
      have hp : (h.view.snapshots k).length ≤ p := List.getElem?_eq_none_iff.mp hs
      have hcount := hc.length_snapshots
      simp only [List.drop_of_length_le hp, List.take_nil]
      rw [standing_of_le (by omega), standing_of_le (by omega)]

theorem exhaust_standing (p : Nat) :
    (standing h p : Cursor k).exhaust = ((h.view.snapshots k).drop p, last h) := by
  have hcount := hc.length_snapshots
  rw [exhaust, remaining_standing, takeNext_of_complete hc, standing_of_le (by omega)]
  rw [List.take_of_length_le (by rw [List.length_drop]; omega)]

end Complete

end Cursor

end FieldMesh

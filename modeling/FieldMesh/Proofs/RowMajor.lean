import FieldMesh.Proofs.Validation
import FieldMesh.Script.Access
import Mathlib.Algebra.BigOperators.Group.List.Basic
import Mathlib.Data.Set.Function

/-! # Arrays row by row

The array of a lent field has one row for each vertex. An index of it is the number of a row and the
number of a component, the latter being left out where rows have a single component. The strides
lead an index to the byte at which the entry starts; the entries lie row by row, so every one of
them has exactly one index. An index is written with integers that count from the front or from the
end, and no others are taken.
-/

namespace FieldMesh

theorem bijOn_of_map_eq_range {α : Type} {f : α → Nat} {xs : List α} {m : Nat}
    (h : xs.map f = List.range m) : Set.BijOn f {x | x ∈ xs} {i | i < m} := by
  refine ⟨fun x hx => ?_, fun x hx y hy hxy => ?_, fun i hi => ?_⟩
  · have hmem : f x ∈ xs.map f := List.mem_map_of_mem hx
    rwa [h, List.mem_range] at hmem
  · have distinct : (xs.map f).Nodup := h ▸ List.nodup_range
    exact List.inj_on_of_nodup_map distinct hx hy hxy
  · have hmem : i ∈ xs.map f := by rwa [h, List.mem_range]
    exact List.mem_map.mp hmem

theorem flatMap_range_rows (n d : Nat) :
    ((List.range n).flatMap fun r => (List.range d).map fun j => r * d + j) =
      List.range (n * d) := by
  induction n with
  | zero => simp
  | succ n ih =>
    rw [List.range_succ, List.flatMap_append, ih, List.flatMap_singleton, Nat.succ_mul,
      List.range_add]

namespace Layout

variable {l : Layout} {bytes n d r j : Nat} {index : List Nat}

/-- The index of a component of a row, for rows of `d` components. -/
def rowIndex (d r j : Nat) : List Nat := if d = 1 then [r] else [r, j]

/-- In a memory of some bytes, `n` rows of `d` components lie one behind the other. -/
structure RowMajor (l : Layout) (bytes n d : Nat) : Prop where
  shape : l.shape = if d = 1 then [n] else [n, d]
  /-- The memory holds the entries of the array and nothing else. -/
  full : bytes = 8 * l.shape.prod
  length : bytes = 8 * (n * d)
  indices : ∀ index, index ∈ Layout.indices l.shape ↔
    ∃ r < n, ∃ j < d, index = rowIndex d r j
  offset : ∀ r < n, ∀ j < d, l.offset (rowIndex d r j) = 8 * (r * d + j)
  /-- Every entry ends within the memory. -/
  inside : ∀ r < n, ∀ j < d, l.offset (rowIndex d r j) + 8 ≤ bytes
  /-- Every entry has one index. -/
  bijective : Set.BijOn l.position {index | index ∈ Layout.indices l.shape} {i | i < n * d}

/-! ## Rows one behind the other -/

def rows (n d : Nat) : Layout :=
  if d = 1 then ⟨0, [n], [itemSize]⟩ else ⟨0, [n, d], [d * itemSize, itemSize]⟩

/-- The number of rows is recovered from the number of bytes. -/
theorem ofBytes_eq_rows (hd : 1 ≤ d) (n : Nat) : ofBytes (n * d * itemSize) d = rows n d := by
  have hrows : n * d * itemSize / itemSize / d = n := by
    rw [Nat.mul_div_cancel _ (by decide : 0 < itemSize), Nat.mul_div_cancel _ hd]
  rw [ofBytes, hrows, rows]

theorem shape_rows (n d : Nat) : (rows n d).shape = if d = 1 then [n] else [n, d] := by
  unfold rows
  split <;> rfl

theorem prod_shape_rows (n d : Nat) : (rows n d).shape.prod = n * d := by
  rw [shape_rows]
  split
  · rename_i hone
    rw [hone, List.prod_singleton, Nat.mul_one]
  · rw [List.prod_cons, List.prod_singleton]

theorem offset_rows (n r : Nat) (hj : j < d) :
    (rows n d).offset (rowIndex d r j) = 8 * (r * d + j) := by
  unfold rows rowIndex
  split
  · simp only [offset, List.zipWith_cons_cons, List.zipWith_nil_left, List.foldr_cons,
      List.foldr_nil, itemSize]
    subst d
    omega
  · simp only [offset, List.zipWith_cons_cons, List.zipWith_nil_left, List.foldr_cons,
      List.foldr_nil, itemSize, ← Nat.mul_assoc]
    omega

theorem indices_rows (n d : Nat) : indices (rows n d).shape =
    (List.range n).flatMap fun r => (List.range d).map (rowIndex d r) := by
  rw [shape_rows]
  by_cases hd : d = 1
  · subst hd
    rfl
  · have hrow : rowIndex d = fun r j => [r, j] := by
      funext r j
      exact if_neg hd
    rw [if_neg hd, hrow]
    simp only [indices, List.map_cons, List.map_nil, ← List.map_eq_flatMap]
    simp [Function.comp_def]

theorem map_position_rows (n d : Nat) :
    (indices (rows n d).shape).map (rows n d).position = List.range (n * d) := by
  rw [indices_rows, List.map_flatMap, ← flatMap_range_rows]
  refine List.flatMap_congr fun r hr => ?_
  rw [List.map_map]
  refine List.map_congr_left fun j hj => ?_
  rw [Function.comp_apply, position, offset_rows n r (List.mem_range.mp hj), itemSize,
    Nat.mul_div_cancel_left _ (by decide)]

theorem rowMajor_rows (n d : Nat) : (rows n d).RowMajor (n * d * itemSize) n d where
  shape := shape_rows n d
  full := by rw [prod_shape_rows, itemSize, Nat.mul_comm]
  length := by rw [itemSize, Nat.mul_comm]
  indices index := by
    rw [indices_rows]
    simp [eq_comm]
  offset r _ j hj := offset_rows n r hj
  inside r hr j hj := by
    have hend : r * d + d ≤ n * d := by
      rw [← Nat.succ_mul]
      exact Nat.mul_le_mul_right d hr
    rw [offset_rows n r hj, itemSize]
    omega
  bijective := bijOn_of_map_eq_range (map_position_rows n d)

namespace RowMajor

theorem position_eq (h : l.RowMajor bytes n d) (hr : r < n) (hj : j < d) :
    l.position (rowIndex d r j) = r * d + j := by
  rw [position, h.offset r hr j hj, itemSize, Nat.mul_div_cancel_left _ (by decide)]

theorem shape_ne_nil (h : l.RowMajor bytes n d) : l.shape ≠ [] := by
  rw [h.shape]
  split <;> exact List.cons_ne_nil _ _

theorem size_le (h : l.RowMajor bytes n d) (hn : 1 ≤ n) (hd : 1 ≤ d) {m : Nat} (hm : m ∈ l.shape) :
    m ≤ n * d := by
  have hrows : n ≤ n * d := Nat.le_mul_of_pos_right n hd
  have hcomponents : d ≤ n * d := Nat.le_mul_of_pos_left d hn
  rw [h.shape] at hm
  split at hm
  · rw [List.mem_singleton.mp hm]
    exact hrows
  · rcases List.mem_cons.mp hm with rfl | hm
    · exact hrows
    · rw [List.mem_singleton.mp hm]
      exact hcomponents

end RowMajor

/-! ## Keys -/

/-- An integer names a place among `n`, counted from the front or from the end. -/
def Names (n : Nat) (i : Int) (place : Nat) : Prop := place < n ∧ (i = place ∨ i = place - n)

/-- Integers name an index, one for each size. -/
inductive NamesIndex : List Nat → List Int → List Nat → Prop
  | nil : NamesIndex [] [] []
  | cons {n : Nat} {i : Int} {place : Nat} {shape : List Nat} {is : List Int} {index : List Nat}
    (first : Names n i place) (rest : NamesIndex shape is index) :
    NamesIndex (n :: shape) (i :: is) (place :: index)

theorem place_eq_some_iff {n p : Nat} {i : Int} : place n i = some p ↔ Names n i p := by
  unfold place Names
  split
  · split
    · rw [Option.some.injEq]
      omega
    · exact ⟨(nomatch ·), fun _ => by omega⟩
  · split
    · rw [Option.some.injEq]
      omega
    · exact ⟨(nomatch ·), fun _ => by omega⟩

theorem Names.checkIndex {n p : Nat} {i : Int} (h : Names n i p) (hn : n ≤ 0x8000000000000000) :
    checkIndex i = .ok () := by
  obtain ⟨hp, hi⟩ := h
  exact if_pos (by omega)

theorem NamesIndex.length_eq {shape : List Nat} {is : List Int} (h : NamesIndex shape is index) :
    is.length = shape.length := by
  induction h with
  | nil => rfl
  | cons _ _ ih => rw [List.length_cons, List.length_cons, ih]

theorem NamesIndex.mem_indices {shape : List Nat} {is : List Int} (h : NamesIndex shape is index) :
    index ∈ indices shape := by
  induction h with
  | nil => exact .head _
  | cons first rest ih =>
    exact List.mem_flatMap.mpr ⟨_, List.mem_range.mpr first.1, List.mem_map_of_mem ih⟩

theorem NamesIndex.checkIndex_of_head {shape : List Nat} {i : Int} {is : List Int}
    (h : NamesIndex shape (i :: is) index) (sizes : ∀ n ∈ shape, n ≤ 0x8000000000000000) :
    checkIndex i = .ok () := by
  cases h with
  | cons first rest => exact first.checkIndex (sizes _ (.head _))

/-- By induction on the sizes. -/
theorem places_eq_ok_iff {shape : List Nat} {is : List Int} (dimension : Nat)
    (sizes : ∀ n ∈ shape, n ≤ 0x8000000000000000) (hlength : is.length = shape.length) :
    places dimension shape is = .ok index ↔ NamesIndex shape is index := by
  induction shape generalizing dimension is index with
  | nil =>
    cases List.length_eq_zero_iff.mp hlength
    constructor
    · rintro ⟨⟩
      exact .nil
    · rintro ⟨⟩
      rfl
  | cons n shape ih =>
    cases is with
    | nil => exact nomatch hlength
    | cons i is =>
      have hrest : ∀ m ∈ shape, m ≤ 0x8000000000000000 := fun m hm => sizes m (.tail _ hm)
      constructor
      · intro h
        obtain ⟨_, -, h⟩ := exists_of_bind h
        split at h
        · exact nomatch h
        · rename_i p hplace
          obtain ⟨rest, hrests, h⟩ := exists_of_bind h
          cases h
          exact .cons (place_eq_some_iff.mp hplace)
            ((ih _ hrest (Nat.succ.inj hlength)).mp hrests)
      · rintro (_ | ⟨first, rest⟩)
        have hplace := place_eq_some_iff.mpr first
        have hrests := (ih (dimension + 1) hrest (Nat.succ.inj hlength)).mpr rest
        rw [places, first.checkIndex (sizes n (.head _)), hplace]
        exact congrArg (fun r => r >>= fun index => Except.ok (_ :: index)) hrests

end Layout

/-- What is put between brackets addresses an entry of an array. -/
def Index.Addresses (shape index : List Nat) : Index → Prop
  | one i => Layout.NamesIndex shape [i] index
  | tuple is => Layout.NamesIndex shape is index
  | list => False

theorem Index.Addresses.mem_indices {shape index : List Nat} {x : Index}
    (h : x.Addresses shape index) : index ∈ Layout.indices shape := by
  cases x with
  | one i => exact Layout.NamesIndex.mem_indices h
  | tuple is => exact Layout.NamesIndex.mem_indices h
  | list => exact h.elim

namespace Layout

variable {l : Layout} {index : List Nat} {x : Index}

theorem checked_places_eq_ok_iff {i : Int} (sizes : ∀ n ∈ l.shape, n ≤ 0x8000000000000000)
    (hrank : l.rank = 1) :
    (checkIndex i >>= fun _ => places 1 l.shape [i]) = .ok index ↔
      NamesIndex l.shape [i] index := by
  have hplaces : places 1 l.shape [i] = .ok index ↔ NamesIndex l.shape [i] index :=
    places_eq_ok_iff 1 sizes hrank.symm
  constructor
  · intro h
    obtain ⟨_, -, h⟩ := exists_of_bind h
    exact hplaces.mp h
  · intro h
    rw [h.checkIndex_of_head sizes]
    exact hplaces.mpr h

/-- An array is read at the entries that can be addressed. -/
theorem readPlace_eq_ok_iff (sizes : ∀ n ∈ l.shape, n ≤ 0x8000000000000000) :
    l.readPlace x = .ok index ↔ x.Addresses l.shape index := by
  cases x with
  | one i =>
    by_cases hrank : l.rank = 1
    · simp only [readPlace, if_pos hrank]
      exact checked_places_eq_ok_iff sizes hrank
    · simp only [readPlace, if_neg hrank]
      refine ⟨fun h => ?_, fun h => absurd (NamesIndex.length_eq h).symm hrank⟩
      obtain ⟨_, -, h⟩ := exists_of_bind h
      exact nomatch h
  | tuple is =>
    simp only [readPlace]
    by_cases hlength : is.length = l.rank
    · rw [if_neg (by omega), if_neg (by omega)]
      exact places_eq_ok_iff 1 sizes hlength
    · refine ⟨fun h => ?_, fun h => absurd (NamesIndex.length_eq h) hlength⟩
      split at h
      · exact nomatch h
      · rw [if_pos (by omega)] at h
        exact nomatch h
  | list => exact ⟨(nomatch ·), False.elim⟩

theorem writePlace_eq_ok_iff (ranked : l.shape ≠ [])
    (sizes : ∀ n ∈ l.shape, n ≤ 0x8000000000000000) :
    l.writePlace x = .ok index ↔ x.Addresses l.shape index := by
  cases x with
  | one i =>
    have hpositive : 0 < l.rank := List.length_pos_iff.mpr ranked
    by_cases hrank : 1 < l.rank
    · simp only [writePlace, if_pos hrank]
      refine ⟨(nomatch ·), fun h => ?_⟩
      have hlength : 1 = l.rank := NamesIndex.length_eq h
      omega
    · simp only [writePlace, if_neg hrank]
      exact checked_places_eq_ok_iff sizes (by omega)
  | tuple is => exact readPlace_eq_ok_iff (x := .tuple is) sizes
  | list => exact readPlace_eq_ok_iff (x := .list) sizes

end Layout

end FieldMesh

import FieldMesh.Proofs.Fields

/-! # Rows by slot

The values of a field are read and written a row at a time, by the slot of a vertex. The rows lie
one behind the other: no two of them share a value, and they leave none over if the values come out
even. Any number may be given for a slot. Where it has no row there is nothing to read or to write,
except at one slot of every field, whose row would begin within the range of lengths and end beyond
it: there the call stops.
-/

namespace FieldMesh

namespace Field

variable {f : Field} {slot other i : Nat} {new : List Float}

def rowOf (f : Field) (slot : Nat) : List Float :=
  (f.values.drop (slot * f.components)).take f.components

/-- A position among the values that belongs to the row of a slot. -/
def InRow (f : Field) (slot i : Nat) : Prop :=
  slot * f.components ≤ i ∧ i < slot * f.components + f.components

/-- The slot of the row that contains the end of the range of lengths. -/
def brink (f : Field) : Nat := (Length.limit - 1) / f.components

theorem InRow.unique (h : f.InRow slot i) (h' : f.InRow other i) : slot = other := by
  obtain ⟨hbegin, hend⟩ := h
  obtain ⟨hbegin', hend'⟩ := h'
  rcases Nat.lt_trichotomy slot other with hlt | heq | hgt
  · have hapart := row_end_le hlt f.components
    omega
  · exact heq
  · have hapart := row_end_le hgt f.components
    omega

theorem lt_extent_iff (hc : 1 ≤ f.components) :
    slot < f.extent ↔ slot * f.components + f.components ≤ f.values.length := by
  rw [extent, ← Nat.succ_mul]
  exact Nat.le_div_iff_mul_le hc

theorem eq_brink_iff (hc : 1 ≤ f.components) :
    slot = f.brink ↔
      slot * f.components < Length.limit ∧ Length.limit ≤ slot * f.components + f.components := by
  have hlimit : 0 < Length.limit := by decide
  rw [brink, eq_comm, Nat.div_eq_iff hc]
  omega

/-! ## Offsets -/

theorem rowStart_of_fits (hrow : slot * f.components + f.components ≤ f.values.length)
    (hfits : f.values.length < Length.limit) : f.rowStart slot = .ok (some (slot * f.components)) :=
  rowStart_eq_some_iff.mpr ⟨Nat.lt_of_le_of_lt hrow hfits, hrow, rfl⟩

theorem rowStart_brink (hc : 1 ≤ f.components) : f.rowStart f.brink = .error .overflow := by
  obtain ⟨hbegin, hend⟩ := (eq_brink_iff hc).mp rfl
  have hstop : Length.add? (f.brink * f.components) f.components = none :=
    if_neg (Nat.not_lt.mpr hend)
  unfold rowStart
  rw [Length.mul?_of_lt hbegin]
  dsimp only
  rw [hstop]

/-- Behind the last row an offset is found to be none, or it is too large to be one. -/
theorem rowStart_of_beyond (hc : 1 ≤ f.components) (hs : f.extent ≤ slot) (hb : slot ≠ f.brink) :
    f.rowStart slot = .ok none := by
  have hrow : ¬ slot * f.components + f.components ≤ f.values.length := by
    rw [← lt_extent_iff hc]
    omega
  by_cases hbegin : slot * f.components < Length.limit
  · have hend : slot * f.components + f.components < Length.limit := Nat.not_le.mp fun hlimit =>
      hb ((eq_brink_iff hc).mpr ⟨hbegin, hlimit⟩)
    unfold rowStart
    rw [Length.mul?_of_lt hbegin]
    dsimp only
    rw [Length.add?_of_lt hend]
    dsimp only
    rw [if_neg hrow]
  · have hnone : Length.mul? slot f.components = none := if_neg hbegin
    rw [rowStart, hnone]

/-- No field is so long that it reaches the end of the range of lengths. -/
theorem extent_le_brink (hc : 1 ≤ f.components) (hfits : f.values.length < Length.limit) :
    f.extent ≤ f.brink := by
  have hend : Length.limit ≤ f.brink * f.components + f.components :=
    ((eq_brink_iff hc).mp rfl).2
  rw [← Nat.not_lt, lt_extent_iff hc]
  omega

/-! ## Reading -/

theorem row_of_fits (hrow : slot * f.components + f.components ≤ f.values.length)
    (hfits : f.values.length < Length.limit) : f.row slot = .ok (some (f.rowOf slot)) := by
  rw [Field.row, rowStart_of_fits hrow hfits]
  rfl

theorem length_rowOf (hrow : slot * f.components + f.components ≤ f.values.length) :
    (f.rowOf slot).length = f.components := by
  rw [rowOf, List.length_take, List.length_drop]
  omega

theorem getElem?_rowOf (f : Field) (slot j : Nat) :
    (f.rowOf slot)[j]? =
      if j < f.components then f.values[slot * f.components + j]? else none := by
  rw [rowOf, List.getElem?_take, List.getElem?_drop]

theorem flatMap_rowOf (f : Field) (n : Nat) :
    (List.range n).flatMap f.rowOf = f.values.take (n * f.components) := by
  induction n with
  | zero => simp
  | succ n ih =>
    rw [List.range_succ, List.flatMap_append, ih, List.flatMap_singleton, Nat.succ_mul,
      List.take_add]
    rfl

/-! ## Writing -/

theorem setRow_of_fits (hrow : slot * f.components + f.components ≤ f.values.length)
    (hfits : f.values.length < Length.limit) (new : List Float) :
    f.setRow slot new = .ok (some (f.writeRow slot new)) := by
  rw [Field.setRow, rowStart_of_fits hrow hfits]
  rfl

theorem values_writeRow (f : Field) (slot : Nat) (new : List Float) :
    (f.writeRow slot new).values = f.values.take (slot * f.components) ++
      overwrite (f.rowOf slot) new ++ f.values.drop (slot * f.components + f.components) := rfl

theorem rowOf_writeRow_self (hrow : slot * f.components + f.components ≤ f.values.length)
    (new : List Float) : (f.writeRow slot new).rowOf slot = overwrite (f.rowOf slot) new := by
  have hfront : (f.values.take (slot * f.components)).length = slot * f.components := by
    rw [List.length_take]
    omega
  have hlength : (overwrite (f.rowOf slot) new).length = f.components := by
    rw [length_overwrite, length_rowOf hrow]
  change ((f.writeRow slot new).values.drop (slot * f.components)).take f.components = _
  rw [values_writeRow, List.append_assoc, List.drop_left' hfront, ← hlength, List.take_left]

theorem getElem?_writeRow (hrow : slot * f.components + f.components ≤ f.values.length)
    (new : List Float) (hi : ¬ f.InRow slot i) :
    (f.writeRow slot new).values[i]? = f.values[i]? := by
  have hfront : (f.values.take (slot * f.components)).length = slot * f.components := by
    rw [List.length_take]
    omega
  have hwritten : (f.values.take (slot * f.components) ++ overwrite (f.rowOf slot) new).length =
      slot * f.components + f.components := by
    rw [List.length_append, hfront, length_overwrite, length_rowOf hrow]
  rw [values_writeRow]
  rcases Nat.lt_or_ge i (slot * f.components) with hbefore | hbegin
  · rw [List.append_assoc, List.getElem?_append_left (by omega), List.getElem?_take_of_lt hbefore]
  · have hend : slot * f.components + f.components ≤ i := Nat.not_lt.mp fun hlt =>
      hi ⟨hbegin, hlt⟩
    rw [List.getElem?_append_right (by omega), hwritten, List.getElem?_drop,
      Nat.add_sub_cancel' hend]

theorem rowOf_writeRow_of_ne (hrow : slot * f.components + f.components ≤ f.values.length)
    (new : List Float) (hne : other ≠ slot) :
    (f.writeRow slot new).rowOf other = f.rowOf other := by
  apply List.ext_getElem?
  intro j
  rw [getElem?_rowOf, getElem?_rowOf]
  change (if j < f.components then (f.writeRow slot new).values[other * f.components + j]?
    else none) = _
  by_cases hj : j < f.components
  · have hother : f.InRow other (other * f.components + j) := ⟨by omega, by omega⟩
    rw [getElem?_writeRow hrow new fun h => hne (hother.unique h)]
  · rw [if_neg hj, if_neg hj]

theorem row_congr {g : Field} (hcomponents : g.components = f.components)
    (hlength : g.values.length = f.values.length) (hrow : g.rowOf slot = f.rowOf slot) :
    g.row slot = f.row slot := by
  have hstart : g.rowStart slot = f.rowStart slot := by
    rw [rowStart, rowStart, hcomponents, hlength]
  unfold Field.row
  rw [hstart]
  cases hs : f.rowStart slot with
  | error k => rfl
  | ok start? =>
    cases start? with
    | none => rfl
    | some start =>
      obtain ⟨_, _, rfl⟩ := rowStart_eq_some_iff.mp hs
      have hsame : (g.values.drop (slot * f.components)).take g.components = f.rowOf slot := by
        rw [← hrow, rowOf, hcomponents]
      exact congrArg (fun row => Except.ok (some row)) hsame

/-- Rows are read and written exactly. A slot within the extent has the values from its offset on,
as many as there are components; writing it overwrites them and leaves every other row and every
other value. A slot beyond the extent has nothing to read or to write, but for the one whose row
contains the end of the range of lengths: it lies beyond the extent as well, and there both calls
stop. Distinct rows share no position, and where the values come out even they are the rows one
behind the other. -/
theorem rows_exact {f : Field} (components_pos : 1 ≤ f.components)
    (stored : f.values.length < Length.limit) :
    (∀ slot, slot < f.extent →
      f.row slot = .ok (some (f.rowOf slot)) ∧ (f.rowOf slot).length = f.components ∧
      (∀ j, j < f.components → (f.rowOf slot)[j]? = f.values[slot * f.components + j]?) ∧
      ∀ new, ∃ values, f.setRow slot new = .ok (some { f with values }) ∧
        values.length = f.values.length ∧
        ({ f with values } : Field).row slot = .ok (some (overwrite (f.rowOf slot) new)) ∧
        (∀ other, other ≠ slot → ({ f with values } : Field).row other = f.row other) ∧
        ∀ i, ¬ f.InRow slot i → values[i]? = f.values[i]?) ∧
    (∀ slot, f.extent ≤ slot → slot ≠ f.brink →
      f.row slot = .ok none ∧ ∀ new, f.setRow slot new = .ok none) ∧
    (f.extent ≤ f.brink ∧ f.brink < Length.limit ∧ f.row f.brink = .error .overflow ∧
      ∀ new, f.setRow f.brink new = .error .overflow) ∧
    (∀ slot other i, f.InRow slot i → f.InRow other i → slot = other) ∧
    (f.components ∣ f.values.length → (List.range f.extent).flatMap f.rowOf = f.values) := by
  refine ⟨fun slot hs => ?_, fun slot hs hb => ?_, ?_, fun _ _ _ h h' => h.unique h', ?_⟩
  · have hrow := (lt_extent_iff components_pos).mp hs
    refine ⟨row_of_fits hrow stored, length_rowOf hrow, fun j hj => ?_, fun new => ?_⟩
    · rw [getElem?_rowOf, if_pos hj]
    · have hlength := length_writeRow new hrow
      have hself : (f.writeRow slot new).row slot =
          .ok (some ((f.writeRow slot new).rowOf slot)) :=
        row_of_fits (f := f.writeRow slot new) (hlength.symm ▸ hrow) (hlength.symm ▸ stored)
      rw [rowOf_writeRow_self hrow] at hself
      refine ⟨(f.writeRow slot new).values, setRow_of_fits hrow stored new, hlength, hself,
        fun other hne => ?_, fun i hi => getElem?_writeRow hrow new hi⟩
      exact row_congr (g := f.writeRow slot new) rfl hlength (rowOf_writeRow_of_ne hrow new hne)
  · have hstart := rowStart_of_beyond components_pos hs hb
    exact ⟨by rw [Field.row, hstart]; rfl, fun new => by rw [Field.setRow, hstart]; rfl⟩
  · have hstart := rowStart_brink components_pos
    refine ⟨extent_le_brink components_pos stored, ?_, by rw [Field.row, hstart]; rfl,
      fun new => by rw [Field.setRow, hstart]; rfl⟩
    exact Nat.lt_of_le_of_lt (Nat.div_le_self _ _) (by decide)
  · intro hdvd
    rw [flatMap_rowOf, extent, Nat.div_mul_cancel hdvd, List.take_length]

/-- Of three rows with two values the second is read and the fourth is not there. -/
theorem rows_exact_pairs :
    let f : Field := ⟨⟨0⟩, "T", 2, [0.0, 1.0, 2.0, 3.0, 4.0, 5.0], true⟩
    1 ≤ f.components ∧ f.values.length < Length.limit ∧ f.extent = 3 ∧
      f.row 1 = .ok (some [2.0, 3.0]) ∧ f.row 3 = .ok none ∧
      f.row 0x7fffffffffffffff = .error .overflow := by
  intro f
  have components_pos : 1 ≤ f.components := by decide
  have stored : f.values.length < Length.limit := by decide
  obtain ⟨inside, beyond, ⟨_, _, brink, _⟩, _⟩ := rows_exact components_pos stored
  have hbrink : f.brink = 0x7fffffffffffffff := by decide
  refine ⟨components_pos, stored, by decide, (inside 1 (by decide)).1, ?_, hbrink ▸ brink⟩
  exact (beyond 3 (by decide) (by rw [hbrink]; decide)).1

/-- The largest number that can be given for a slot stops a call on a field of one component, which
has a single row. -/
theorem row_stops_at_brink :
    let f : Field := ⟨⟨0⟩, "T", 1, [0.0], true⟩
    1 ≤ f.components ∧ 0xffffffffffffffff < Length.limit ∧ f.extent ≤ 0xffffffffffffffff ∧
      f.row 0xffffffffffffffff = .error .overflow ∧
      f.setRow 0xffffffffffffffff [1.0] = .error .overflow := by
  refine ⟨by decide, by decide, by decide, rfl, rfl⟩

end Field

end FieldMesh

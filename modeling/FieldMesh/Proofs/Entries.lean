import FieldMesh.Proofs.Outlines
import FieldMesh.Proofs.RowAccess

/-! # Entries for vertices

The row of a field for a vertex is what the function for vertices is given of the field, and what it
returns takes the place of the row in the target.
-/

namespace FieldMesh

namespace Value

variable {v : Value} {n : Nat} {xs : List Float} {reason : String}

theorem eq_none_of_isNone (h : v.isNone = true) : v = .none := by
  cases v with
  | none => rfl
  | _ => exact nomatch h

/-- A value fills a row: a number one of a single component, and a sequence of numbers one of as
many. -/
inductive Fills (v : Value) : Nat → List Float → Prop
  | number {x : Float} (h : v.toFloat = .ok x) : Fills v 1 [x]
  | sequence {xs : List Float} (h : v.toFloats = .ok xs) : Fills v xs.length xs

/-- A value fills no row of so many components, and why. -/
inductive Misfits (v : Value) (n : Nat) : String → Prop
  | notNumeric {e : Exn} (single : n = 1 → ∀ x, v.toFloat ≠ .ok x) (h : v.toFloats = .error e) :
      Misfits v n s!"returned value is not numeric ({e.message})"
  | wrongCount {xs : List Float} (single : n = 1 → ∀ x, v.toFloat ≠ .ok x)
      (h : v.toFloats = .ok xs) (count : xs.length ≠ n) :
      Misfits v n s!"returned {xs.length} components, expected {n}"

theorem Fills.length_eq (h : v.Fills n xs) : xs.length = n := by
  cases h <;> rfl

theorem takeRow_cases (v : Value) (n : Nat) :
    (∃ xs, ScriptedAction.takeRow v n = .ok xs ∧ v.Fills n xs) ∨
      ∃ reason, ScriptedAction.takeRow v n = .error reason ∧ v.Misfits n reason := by
  unfold ScriptedAction.takeRow
  split
  · rename_i x hone
    split at hone
    · rename_i hn
      subst hn
      have hx : v.toFloat = .ok x := by
        cases hv : v.toFloat with
        | error e =>
          rw [hv] at hone
          exact nomatch hone
        | ok y =>
          rw [hv] at hone
          cases hone
          rfl
      exact .inl ⟨[x], rfl, .number hx⟩
    · exact nomatch hone
  · rename_i hone
    have single : n = 1 → ∀ x, v.toFloat ≠ .ok x := by
      intro hn x hx
      rw [if_pos hn, hx] at hone
      exact nomatch hone
    split
    · rename_i e he
      exact .inr ⟨_, rfl, .notNumeric single he⟩
    · rename_i xs hxs
      by_cases hcount : xs.length = n
      · subst hcount
        exact .inl ⟨xs, if_pos rfl, .sequence hxs⟩
      · exact .inr ⟨_, if_neg hcount, .wrongCount single hxs hcount⟩

end Value

namespace Mesh

variable {m n : Mesh} {slot : Nat} {d : FieldId} {f : Field} {target : Option FieldId}
  {given : List (Option (List Float))}

/-- What the function for vertices is given of a field: nothing if there is no field, and its row
of a slot otherwise, which is a number or several numbers. -/
inductive Entry (m : Mesh) (slot : Nat) : Option FieldId → Value → Prop
  | nothing : Entry m slot none .none
  | number {d : FieldId} {f : Field} {x : Float} (stands : m.fields[d.raw]? = some f)
      (single : f.components = 1) (row : f.rowOf slot = [x]) : Entry m slot (some d) (.float x)
  | numbers {d : FieldId} {f : Field} (stands : m.fields[d.raw]? = some f)
      (several : f.components ≠ 1) :
      Entry m slot (some d) (.tuple ((f.rowOf slot).map .float))

theorem entry_entryOf (stands : m.fields[d.raw]? = some f)
    (hlength : (f.rowOf slot).length = f.components) :
    m.Entry slot (some d) (ScriptedAction.entryOf (some (f.rowOf slot))) := by
  by_cases single : f.components = 1
  · obtain ⟨x, hx⟩ := List.length_eq_one_iff.mp (hlength.trans single)
    rw [hx]
    exact .number stands single hx
  · have hentry : ScriptedAction.entryOf (some (f.rowOf slot)) =
        .tuple ((f.rowOf slot).map .float) := by
      unfold ScriptedAction.entryOf
      split
      · rename_i heq
        exact nomatch heq
      · rename_i x heq
        rw [← hlength, Option.some.inj heq] at single
        exact absurd rfl single
      · rename_i heq
        rw [Option.some.inj heq]
    rw [hentry]
    exact .numbers stands single

/-- Of a mesh nothing has changed but rows of a target: those for which a row was given are that
row now, and the others are what they were. -/
structure Takes (m : Mesh) (target : Option FieldId) (given : List (Option (List Float)))
    (n : Mesh) : Prop where
  rewrites : m.RewritesOnly target n
  rows : ∀ d f, target = some d → m.fields[d.raw]? = some f → ∃ g, n.fields[d.raw]? = some g ∧
    ∀ slot < m.vertices.length, g.rowOf slot = given[slot]?.join.getD (f.rowOf slot)

namespace Takes

theorem nil (m : Mesh) (target : Option FieldId) : m.Takes target [] m where
  rewrites := .refl target m
  rows _ f _ hf := ⟨f, hf, fun _ _ => rfl⟩

theorem exists_field (h : m.Takes target given n) {i : Nat} (hf : m.fields[i]? = some f) :
    ∃ values, n.fields[i]? = some { f with values } ∧ values.length = f.values.length ∧
      ∀ slot, given.length ≤ slot → slot < m.vertices.length →
        { f with values }.rowOf slot = f.rowOf slot := by
  obtain ⟨values, hvalues, hlength⟩ := h.rewrites.alike.exists_field hf
  refine ⟨values, hvalues, hlength, fun slot hslot hlt => ?_⟩
  by_cases htarget : target = some ⟨i⟩
  · obtain ⟨g, hg, hrows⟩ := h.rows ⟨i⟩ f htarget hf
    cases hvalues.symm.trans hg
    rw [hrows slot hlt, List.getElem?_eq_none hslot]
    rfl
  · rw [h.rewrites.others i htarget, hf] at hvalues
    rw [← Option.some.inj hvalues]

theorem exists_next (h : m.Takes target given n) (covered : m.Covered d)
    (hlt : given.length < m.vertices.length) :
    ∃ (f : Field) (values : List Float), m.fields[d.raw]? = some f ∧
      n.fields[d.raw]? = some { f with values } ∧
      values.length = m.vertices.length * f.components ∧
      (f.rowOf given.length).length = f.components ∧
      ({ f with values } : Field).row given.length = .ok (some (f.rowOf given.length)) ∧
      ∀ new, ({ f with values } : Field).setRow given.length new =
        .ok (some (({ f with values } : Field).writeRow given.length new)) := by
  obtain ⟨f, hfield, hfits, hlength⟩ := covered
  have hf := field_eq_ok_iff.mp hfield
  obtain ⟨values, hvalues, hsame, hrows⟩ := h.exists_field hf
  have hcovers : values.length = m.vertices.length * f.components := hsame.trans hlength
  have hrow : given.length * f.components + f.components ≤ values.length := by
    rw [hcovers]
    exact Field.row_end_le hlt _
  have hstored : values.length < Length.limit := by
    rw [hcovers]
    exact hfits
  have hread := Field.row_of_fits (f := { f with values }) hrow hstored
  rw [hrows _ (Nat.le_refl _) hlt] at hread
  exact ⟨f, values, hf, hvalues, hcovers, Field.length_rowOf (hsame ▸ hrow), hread,
    Field.setRow_of_fits (f := { f with values }) hrow hstored⟩

theorem skip (h : m.Takes target given n) : m.Takes target (given ++ [none]) n where
  rewrites := h.rewrites
  rows d f htarget hf := by
    obtain ⟨g, hg, hrows⟩ := h.rows d f htarget hf
    refine ⟨g, hg, fun slot hlt => (hrows slot hlt).trans ?_⟩
    rcases Nat.lt_trichotomy slot given.length with hbefore | rfl | hafter
    · rw [List.getElem?_append_left hbefore]
    · rw [List.getElem?_concat_length, List.getElem?_eq_none (Nat.le_refl _)]
      rfl
    · rw [List.getElem?_eq_none (by omega), List.getElem?_eq_none (by simp; omega)]

theorem write (h : m.Takes (some d) given n) {g : Field} (hg : n.fields[d.raw]? = some g)
    (hcovers : g.values.length = m.vertices.length * g.components)
    (hlt : given.length < m.vertices.length) {new : List Float}
    (hnew : new.length = g.components) :
    m.Takes (some d) (given ++ [some new])
      (n.setFieldValues d.raw (g.writeRow given.length new).values) := by
  have hrow : given.length * g.components + g.components ≤ g.values.length := by
    rw [hcovers]
    exact Field.row_end_le hlt _
  refine ⟨h.rewrites.trans (rewritesOnly_setFieldValues fun g' hg' => ?_), ?_⟩
  · cases hg.symm.trans hg'
    exact Field.length_writeRow new hrow
  · rintro _ f ⟨⟩ hf
    obtain ⟨g', hg', hrows⟩ := h.rows d f rfl hf
    cases hg.symm.trans hg'
    refine ⟨g.writeRow given.length new, ?_, fun slot hslot => ?_⟩
    · rw [getElem?_setFieldValues, hg, Option.map_some, if_pos rfl]
      rfl
    · by_cases hthis : slot = given.length
      · have hlength : new.length = (g.rowOf given.length).length :=
          hnew.trans (Field.length_rowOf hrow).symm
        rw [hthis, Field.rowOf_writeRow_self hrow, overwrite_of_length_eq hlength,
          List.getElem?_concat_length]
        rfl
      · rw [Field.rowOf_writeRow_of_ne hrow new hthis, hrows slot hslot]
        rcases Nat.lt_or_gt_of_ne hthis with hbefore | hafter
        · rw [List.getElem?_append_left hbefore]
        · rw [List.getElem?_eq_none (by omega), List.getElem?_eq_none (by simp; omega)]

end Takes

end Mesh

end FieldMesh

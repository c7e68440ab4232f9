import FieldMesh.Proofs.Outlines
import FieldMesh.Proofs.RowAccess
import FieldMesh.Proofs.RowMajor

/-! # Rows of a field on loan

A window of a field on loan shows the rows of the field: what a user module reads and writes under
the number of a vertex and of a component is the entry that the field has there. A program that
writes through the window changes the entries that it addresses, in the order of its writes, and no
others.
-/

namespace FieldMesh

def Field.layout (f : Field) : Layout := .ofBytes f.bytes f.components

/-! ## Writes -/

/-- What an assignment through a window writes, unless it is refused: the position of the entry in
the memory, and its value. -/
def Window.write? (w : Window) (x : Index) (v : Value) : Option (Nat × Float) :=
  match w.layout.writePlace x, v.toEntry with
  | .ok index, .ok number => some (w.layout.position index, number)
  | _, _ => none

theorem Window.write?_eq_some_iff {w : Window} {x : Index} {v : Value} {i : Nat} {number : Float} :
    w.write? x v = some (i, number) ↔ ∃ index, w.layout.writePlace x = .ok index ∧
      v.toEntry = .ok number ∧ i = w.layout.position index := by
  unfold write?
  split
  · rename_i index y hplace hentry
    rw [hplace, hentry]
    constructor
    · rintro ⟨⟩
      exact ⟨index, rfl, rfl, rfl⟩
    · rintro ⟨_, ⟨⟩, ⟨⟩, rfl⟩
      rfl
  · rename_i hnone
    refine ⟨(nomatch ·), ?_⟩
    rintro ⟨index, hplace, hentry, -⟩
    exact (hnone index number hplace hentry).elim

/-- Values after writes, one after the other. -/
def putAll (xs : List Float) (writes : List (Nat × Float)) : List Float :=
  writes.foldl (fun xs write => xs.set write.1 write.2) xs

theorem putAll_append (xs : List Float) (first rest : List (Nat × Float)) :
    putAll xs (first ++ rest) = putAll (putAll xs first) rest := List.foldl_append

theorem getElem?_putAll {xs : List Float} {i : Nat} (hi : i < xs.length)
    (writes : List (Nat × Float)) :
    (putAll xs writes)[i]? = (writes.reverse.lookup i).or xs[i]? := by
  induction writes generalizing xs with
  | nil => rfl
  | cons write rest ih =>
    obtain ⟨j, x⟩ := write
    have hset : (xs.set j x)[i]? = (List.lookup i [(j, x)]).or xs[i]? := by
      by_cases hij : i = j
      · subst hij
        simp [hi]
      · simp [List.lookup_cons, beq_false_of_ne hij, Ne.symm hij]
    calc (putAll xs ((j, x) :: rest))[i]?
        = (rest.reverse.lookup i).or (xs.set j x)[i]? := ih (by rwa [List.length_set])
      _ = (((j, x) :: rest).reverse.lookup i).or xs[i]? := by
        rw [hset, List.reverse_cons, List.lookup_append, Option.or_assoc]

namespace Query

def WritesTo (id : Nat) : Query → Prop
  | assign (.window w) _ _ => w.exporter = id
  | _ => False

/-- What a question writes through the windows of an exporter. -/
def writes (id : Nat) : Query → List (Nat × Float)
  | assign (.window w) x v => if w.exporter = id then (w.write? x v).toList else []
  | _ => []

theorem writes_of_not_writesTo {id : Nat} {q : Query} (h : ¬ q.WritesTo id) : q.writes id = [] := by
  unfold writes
  split
  · exact if_neg h
  · rfl

end Query

namespace Coupling

variable {c c' c'' : Coupling} {id : Nat} {k : MeshKey} {p : Placed} {writable : Bool}
  {values : List Float}

/-- What a program writes through the windows of an exporter, in order. -/
def written (module : String) (id : Nat) {α : Type} : Program α → Coupling → List (Nat × Float)
  | .done _, _ => []
  | .ask q next, c =>
    let met := c.answer load module q
    q.writes id ++ written module id (next met.1) met.2

/-- Apart from its assignments through the windows of an exporter, a program leaves all meshes
alone. -/
def WritesThrough (module : String) (id : Nat) {α : Type} : Program α → Coupling → Prop
  | .done _, _ => True
  | .ask q next, c =>
    let met := c.answer load module q
    (¬ q.WritesTo id → met.2.cells = c.cells) ∧ WritesThrough module id (next met.1) met.2

/-! ## Exporters of a field -/

/-- An exporter is the one that was opened for a field, and the field stands where it stood, with
as many values. -/
structure Serves (c : Coupling) (id : Nat) (k : MeshKey) (p : Placed) (writable : Bool)
    (values : List Float) : Prop where
  opened : ∃ revoked, c.interpreter.exporters[id]? = some { exporterOf k p writable with revoked }
  stands : (c.mesh k).fields[p.position]? = some { p.field with values }
  length_eq : values.length = p.field.values.length

namespace Serves

theorem of_eq (h : c.Serves id k p writable values) (hcells : c'.cells = c.cells)
    (hexporters : c'.interpreter.exporters = c.interpreter.exporters) :
    c'.Serves id k p writable values where
  opened := hexporters ▸ h.opened
  stands := by rw [mesh_of_cells hcells, h.stands]
  length_eq := h.length_eq

theorem userRun (h : c.Serves id k p writable values) (hrun : c.UserRun c') :
    ∃ now, c'.Serves id k p writable now := by
  obtain ⟨now, hnow, hlength⟩ := (hrun.alike k).exists_field h.stands
  refine ⟨now, ?_, hnow, hlength.trans h.length_eq⟩
  rw [hrun.confined.exporters]
  exact h.opened

theorem exporter_eq (h : c.Serves id k p writable values) :
    ∃ revoked, c.exporter id = { exporterOf k p writable with revoked } := by
  obtain ⟨revoked, he⟩ := h.opened
  exact ⟨revoked, by rw [exporter, he, Option.getD_some]⟩

theorem layout_eq (h : c.Serves id k p writable values) :
    (c.exporter id).layout = p.field.layout := by
  obtain ⟨revoked, he⟩ := h.exporter_eq
  rw [he]
  rfl

theorem length_exporter (h : c.Serves id k p writable values) :
    (c.exporter id).length = p.field.bytes := by
  obtain ⟨revoked, he⟩ := h.exporter_eq
  rw [he]
  rfl

theorem memory_eq (h : c.Serves id k p writable values) :
    (c.exporter id).memory = .lent k p.position := by
  obtain ⟨revoked, he⟩ := h.exporter_eq
  rw [he]
  rfl

theorem writable_eq (h : c.Serves id k p writable values) :
    (c.exporter id).writable = writable := by
  obtain ⟨revoked, he⟩ := h.exporter_eq
  rw [he]
  rfl

theorem values_eq (h : c.Serves id k p writable values) :
    c.values (c.exporter id).memory = values := by
  rw [h.memory_eq, Coupling.values, h.stands]
  rfl

end Serves

theorem windowOf_of_granting (granting : (c.exporter id).revoked = false) :
    c.windowOf (.exporter id) =
      .ok (.window ⟨id, c.interpreter.holds, (c.exporter id).layout⟩,
        c.setInterpreter { c.interpreter with holds := c.interpreter.holds + 1 }) := by
  have hwrite : asks windowFlags 0x1 = false := by decide
  have hcolumns : asks windowFlags 0x58 = false := by decide
  simp only [windowOf, grant, granting, hwrite, hcolumns, Bool.not_true, Bool.false_and,
    Bool.false_eq_true, if_false]
  rfl

theorem length_of_grant {flags : Nat} {into : Bool} {g : Grant}
    (h : c.grant id flags into = .ok g) : g.length = (c.exporter id).length := by
  simp only [grant] at h
  repeat' split at h
  all_goals cases h
  all_goals rfl

/-- Lending a field that holds values opens an exporter for it, whether an array can be made of it
or not. -/
theorem exporters_lend (c : Coupling) (arrays : Option String) (k : MeshKey) (writable : Bool)
    (hvalues : p.field.values ≠ []) :
    ∃ revoked, (c.lend arrays k p writable).2.interpreter.exporters =
      c.interpreter.exporters ++ [{ exporterOf k p writable with revoked }] := by
  rcases hlend : c.lend arrays k p writable with ⟨reason | lent, lending⟩
  · exact ⟨true, (opens_of_lend_error hlend).2.2⟩
  · have hfilled : ¬ p.field.values.isEmpty = true := fun h => hvalues (List.isEmpty_iff.mp h)
    simp only [Coupling.lend, if_neg hfilled] at hlend
    split at hlend
    · rename_i o done hwrap
      obtain ⟨-, -, -, hexporters⟩ := confined_wrap hwrap
      cases hlend
      exact ⟨false, hexporters⟩
    · cases hlend

theorem serves_lend (stands : (c.mesh k).fields[p.position]? = some p.field)
    (hvalues : p.field.values ≠ []) (arrays : Option String) (writable : Bool) :
    ∃ values, (c.lend arrays k p writable).2.Serves c.interpreter.exporters.length k p writable
      values := by
  obtain ⟨values, hnow, hlength⟩ := (c.alike_lend arrays k p writable k).exists_field stands
  obtain ⟨revoked, hexporters⟩ := exporters_lend c arrays k writable hvalues
  refine ⟨values, ⟨revoked, ?_⟩, hnow, hlength⟩
  rw [hexporters, List.getElem?_concat_length]

theorem lend_none (hvalues : p.field.values ≠ []) :
    (c.lend none k p writable).1 = .ok ⟨p.field.id, p.field.name,
      .array c.interpreter.exporters.length
        (.window ⟨c.interpreter.exporters.length, c.interpreter.holds, p.field.layout⟩)⟩ := by
  have hfilled : ¬ p.field.values.isEmpty = true := fun h => hvalues (List.isEmpty_iff.mp h)
  have hnew : (c.setInterpreter (c.interpreter.newExporter (.lent k p.position) p.field.bytes
      p.field.components writable).2).exporter c.interpreter.exporters.length =
        exporterOf k p writable := by
    rw [exporter, setInterpreter, Interpreter.newExporter, List.getElem?_concat_length]
    rfl
  have hwindow := windowOf_of_granting (congrArg (·.revoked) hnew)
  rw [hnew] at hwindow
  have hid : (c.interpreter.newExporter (.lent k p.position) p.field.bytes p.field.components
      writable).1 = c.interpreter.exporters.length := rfl
  simp only [Coupling.lend, if_neg hfilled, wrap]
  rw [hid, hwindow]
  rfl

/-! ## Writes of a program -/

/-- Entries of a field on loan have been written one after the other, and nothing else of any mesh
has changed. -/
structure Overwrites (id : Nat) (k : MeshKey) (p : Placed) (values : List Float)
    (writes : List (Nat × Float)) (c c' : Coupling) : Prop where
  serves : c'.Serves id k p true (putAll values writes)
  rewrites : (c.mesh k).RewritesOnly (some ⟨p.position⟩) (c'.mesh k)
  others : ∀ other, other ≠ k → c'.mesh other = c.mesh other

namespace Overwrites

variable {first rest : List (Nat × Float)}

theorem of_cells (h : c.Serves id k p true values) (hcells : c'.cells = c.cells)
    (hexporters : c'.interpreter.exporters = c.interpreter.exporters) :
    Overwrites id k p values [] c c' :=
  ⟨h.of_eq hcells hexporters, .of_eq (mesh_of_cells hcells k), fun other _ =>
    mesh_of_cells hcells other⟩

theorem trans (h₁ : Overwrites id k p values first c c')
    (h₂ : Overwrites id k p (putAll values first) rest c' c'') :
    Overwrites id k p values (first ++ rest) c c'' where
  serves := putAll_append values first rest ▸ h₂.serves
  rewrites := h₁.rewrites.trans h₂.rewrites
  others other hother := (h₂.others other hother).trans (h₁.others other hother)

end Overwrites

theorem index_lt_of_field {f : Field} {i : Nat} (h : (c.mesh k).fields[i]? = some f) :
    k.index < c.cells.length := by
  by_contra hout
  have hcell : c.cell? k = none := List.getElem?_eq_none (Nat.not_lt.mp hout)
  rw [mesh, hcell] at h
  cases h

namespace Serves

theorem overwrites_setValue (h : c.Serves id k p true values) (i : Nat) (x : Float) :
    Overwrites id k p values [(i, x)] c (c.setValue (c.exporter id).memory i x) := by
  have hset : c.setValue (c.exporter id).memory i x =
      c.setMesh k ((c.mesh k).setFieldValues p.position (values.set i x)) := by
    have hvalues := h.values_eq
    rw [h.memory_eq] at hvalues ⊢
    rw [setValue, hvalues]
  have hlength : (values.set i x).length = p.field.values.length :=
    List.length_set.trans h.length_eq
  have hmesh := mesh_setMesh_self (index_lt_of_field h.stands)
    ((c.mesh k).setFieldValues p.position (values.set i x))
  rw [hset]
  refine ⟨⟨h.opened, ?_, hlength⟩, ?_, fun other hother => mesh_setMesh_of_ne hother _⟩
  · rw [hmesh, Mesh.getElem?_setFieldValues, h.stands, Option.map_some, if_pos rfl]
    rfl
  · refine rewritesOnly_setMesh (Mesh.rewritesOnly_setFieldValues fun f hf => ?_)
    cases h.stands.symm.trans hf
    exact hlength.trans h.length_eq.symm

/-- An assignment through a window of the exporter writes an entry or is refused. -/
theorem change_writeItem (h : c.Serves id k p true values) {w : Window} (hw : w.exporter = id)
    (x : Index) (v : Value) :
    (c.change (c.writeItem (.window w) x v)).2 =
      match w.write? x v with
      | some (i, number) => c.setValue (c.exporter id).memory i number
      | none => c := by
  subst hw
  simp only [writeItem, h.writable_eq, if_true, Window.write?]
  cases w.layout.writePlace x with
  | error e => rfl
  | ok index =>
    cases v.toEntry with
    | error e => rfl
    | ok number => rfl

/-- What a question writes, if nothing but an assignment through the exporter writes. -/
theorem overwrites_answer (h : c.Serves id k p true values) (module : String) (q : Query)
    (rest : ¬ q.WritesTo id → (c.answer load module q).2.cells = c.cells) :
    Overwrites id k p values (q.writes id) c (c.answer load module q).2 := by
  by_cases hq : q.WritesTo id
  · -- The exporter can be written, so only the key and the value decide.
    cases q with
    | assign o x v =>
      cases o with
      | window w =>
        have hw : w.exporter = id := hq
        have hchange := h.change_writeItem hw x v
        change Overwrites id k p values (if w.exporter = id then (w.write? x v).toList else []) c
          (c.change (c.writeItem (.window w) x v)).2
        rw [hchange, if_pos hw]
        split
        · rename_i i number hwrite
          rw [hwrite]
          exact h.overwrites_setValue i number
        · rename_i hnone
          rw [hnone]
          exact .of_cells h rfl rfl
      | list ref => exact hq.elim
      | exporter id' => exact hq.elim
    | _ => exact hq.elim
  · -- No question touches the exporters, so the field is served as before.
    have hconfined := (userRun_answer (fun name c => userRun_load name c) module c q).confined
    rw [Query.writes_of_not_writesTo hq]
    exact .of_cells h (rest hq) hconfined.exporters

/-- By induction on the program. -/
theorem overwrites_run (h : c.Serves id k p true values) (module : String) {α : Type}
    (program : Program α) (through : WritesThrough module id program c) :
    Overwrites id k p values (written module id program c) c (c.run module program).2 := by
  induction program generalizing c values with
  | done r => exact .of_cells h rfl rfl
  | ask q next ih =>
    have hstep := h.overwrites_answer module q through.1
    exact hstep.trans (ih _ hstep.serves through.2)

end Serves

/-! ## Rows -/

section Rows

variable {n : Nat} (components_pos : 1 ≤ p.field.components) (vertices_pos : 1 ≤ n)
  (covers : p.field.values.length = n * p.field.components)
  (stored : p.field.values.length ≤ Length.capacity)

include components_pos covers

theorem rowMajor_layout : p.field.layout.RowMajor p.field.bytes n p.field.components := by
  rw [Field.layout, Field.bytes, covers, Layout.ofBytes_eq_rows components_pos]
  exact Layout.rowMajor_rows n p.field.components

include vertices_pos stored

theorem sizes_layout : ∀ m ∈ p.field.layout.shape, m ≤ 0x8000000000000000 := by
  intro m hm
  have hcapacity : Length.capacity ≤ 0x8000000000000000 := by decide
  have hsize := (rowMajor_layout components_pos covers).size_le vertices_pos components_pos hm
  rw [← covers] at hsize
  exact hsize.trans (stored.trans hcapacity)

theorem write?_layout {hold i : Nat} {key : Index} {v : Value} {x : Float} :
    (⟨id, hold, p.field.layout⟩ : Window).write? key v = some (i, x) ↔
      ∃ r < n, ∃ j < p.field.components,
        key.Addresses p.field.layout.shape (Layout.rowIndex p.field.components r j) ∧
          v.toEntry = .ok x ∧ i = r * p.field.components + j := by
  have hrows := rowMajor_layout components_pos covers
  have hplace (index : List Nat) : p.field.layout.writePlace key = .ok index ↔
      key.Addresses p.field.layout.shape index :=
    Layout.writePlace_eq_ok_iff hrows.shape_ne_nil
      (sizes_layout components_pos vertices_pos covers stored)
  rw [Window.write?_eq_some_iff]
  constructor
  · rintro ⟨index, hindex, hentry, rfl⟩
    have haddresses := (hplace index).mp hindex
    obtain ⟨r, hr, j, hj, rfl⟩ := (hrows.indices index).mp haddresses.mem_indices
    exact ⟨r, hr, j, hj, haddresses, hentry, hrows.position_eq hr hj⟩
  · rintro ⟨r, hr, j, hj, haddresses, hentry, rfl⟩
    exact ⟨_, (hplace _).mpr haddresses, hentry, (hrows.position_eq hr hj).symm⟩

theorem Serves.readItem_iff (h : c.Serves id k p writable values) {hold : Nat} {key : Index}
    {v : Value} :
    c.readItem (.window ⟨id, hold, p.field.layout⟩) key = .ok v ↔
      ∃ r < n, ∃ j < p.field.components, ∃ x,
        key.Addresses p.field.layout.shape (Layout.rowIndex p.field.components r j) ∧
          (({ p.field with values } : Field).rowOf r)[j]? = some x ∧ v = .float x := by
  have hrows := rowMajor_layout components_pos covers
  have hplace (index : List Nat) : p.field.layout.readPlace key = .ok index ↔
      key.Addresses p.field.layout.shape index :=
    Layout.readPlace_eq_ok_iff (sizes_layout components_pos vertices_pos covers stored)
  have hentry : ∀ r < n, ∀ j < p.field.components, (({ p.field with values } : Field).rowOf r)[j]? =
      some (c.entry ⟨id, hold, p.field.layout⟩ (Layout.rowIndex p.field.components r j)) := by
    intro r hr j hj
    have hend := Field.row_end_le hr p.field.components
    have hinside : r * p.field.components + j < values.length := by
      rw [h.length_eq, covers]
      omega
    rw [entry, h.values_eq, hrows.position_eq hr hj, List.getElem?_eq_getElem hinside,
      Field.getElem?_rowOf, if_pos hj, List.getElem?_eq_getElem hinside]
    rfl
  constructor
  · intro hread
    obtain ⟨index, hindex, hv⟩ := exists_of_bind hread
    cases hv
    have haddresses := (hplace index).mp hindex
    obtain ⟨r, hr, j, hj, rfl⟩ := (hrows.indices index).mp haddresses.mem_indices
    exact ⟨r, hr, j, hj, _, haddresses, hentry r hr j hj, rfl⟩
  · rintro ⟨r, hr, j, hj, x, haddresses, hx, rfl⟩
    cases hx.symm.trans (hentry r hr j hj)
    rw [readItem, (hplace _).mpr haddresses]
    rfl

end Rows

/-- The array of a field on loan agrees with its rows. The exporter that is opened for a field with
values counts the bytes of as many rows, and its layout puts them one behind the other, so that
every index leads to an entry of its own; the count is told by every request that is granted. No
stored list of values is longer than the capacity, so it is within the range of signed words. As
long as the field has as many values, whatever user code has written to it, a window of the exporter
reads an entry where a row and a component are addressed, which is the one that the field has there,
and is refused elsewhere. A program that writes meshes through windows of the exporter only changes
nothing but the field: entries that it has written are what was written to them last, and all others
are what they were. -/
theorem array_rows_exact {c : Coupling} {k : MeshKey} {p : Placed} {n : Nat}
    (stands : (c.mesh k).fields[p.position]? = some p.field)
    (components_pos : 1 ≤ p.field.components) (vertices_pos : 1 ≤ n)
    (covers : p.field.values.length = n * p.field.components)
    (stored : p.field.values.length ≤ Length.capacity) (arrays : Option String) (writable : Bool) :
    let d := p.field.components
    let l := p.field.layout
    let id := c.interpreter.exporters.length
    let lent := c.lend arrays k p writable
    l.RowMajor p.field.bytes n d ∧ p.field.bytes < 0x8000000000000000 ∧
      (arrays = none → lent.1 =
        .ok ⟨p.field.id, p.field.name, .array id (.window ⟨id, c.interpreter.holds, l⟩)⟩) ∧
      (∀ c', lent.2.UserRun c' → ∃ values, c'.Serves id k p writable values) ∧
      (∀ hold key v i x, (⟨id, hold, l⟩ : Window).write? key v = some (i, x) ↔
        ∃ r < n, ∃ j < d, key.Addresses l.shape (Layout.rowIndex d r j) ∧ v.toEntry = .ok x ∧
          i = r * d + j) ∧
      ∀ c' values, c'.Serves id k p writable values →
        let f : Field := { p.field with values }
        (c'.exporter id).layout = l ∧ (c'.exporter id).length = 8 * l.shape.prod ∧
        (∀ r < n, f.row r = .ok (some (f.rowOf r))) ∧
        (∀ flags into g, c'.grant id flags into = .ok g → g.length = 8 * (n * d)) ∧
        ((c'.exporter id).revoked = false → ∃ c'', c'.windowOf (.exporter id) =
          .ok (.window ⟨id, c'.interpreter.holds, l⟩, c'')) ∧
        (∀ hold key v, c'.readItem (.window ⟨id, hold, l⟩) key = .ok v ↔
          ∃ r < n, ∃ j < d, ∃ x, key.Addresses l.shape (Layout.rowIndex d r j) ∧
            (f.rowOf r)[j]? = some x ∧ v = .float x) ∧
        (writable = true → ∀ (module : String) (α : Type) (program : Program α),
          WritesThrough module id program c' →
            let ran := (c'.run module program).2
            let writes := written module id program c'
            let g : Field := { p.field with values := putAll values writes }
            Overwrites id k p values writes c' ran ∧
              ∀ r < n, ∀ j < d, (g.rowOf r)[j]? =
                (writes.reverse.lookup (r * d + j)).or (f.rowOf r)[j]?) := by
  intro d l id lent
  have hfilled : p.field.values ≠ [] := by
    have hpositive : 0 < p.field.values.length := by
      rw [covers]
      exact Nat.mul_pos vertices_pos components_pos
    exact List.ne_nil_of_length_pos hpositive
  have hrows : l.RowMajor p.field.bytes n d := rowMajor_layout components_pos covers
  refine ⟨hrows, ?_, ?_, ?_, fun _ _ _ _ _ => write?_layout components_pos vertices_pos covers stored,
    fun c' values serves => ?_⟩
  · have hcapacity : 8 * Length.capacity < 0x8000000000000000 := by decide
    rw [hrows.length, ← covers]
    omega
  · rintro rfl
    exact lend_none hfilled
  · intro c' hrun
    obtain ⟨values, hserves⟩ := serves_lend stands hfilled arrays writable
    exact hserves.userRun hrun
  intro f
  have hlength : f.values.length = n * d := serves.length_eq.trans covers
  have hlimit : f.values.length < Length.limit := by
    rw [hlength, ← covers]
    exact Nat.lt_of_le_of_lt stored Length.capacity_lt_limit
  refine ⟨serves.layout_eq, ?_, fun r hr => ?_, fun flags into g hg => ?_, fun granting => ?_,
    fun _ _ _ => serves.readItem_iff components_pos vertices_pos covers stored, ?_⟩
  · rw [serves.length_exporter]
    exact hrows.full
  · exact Field.row_of_fits (hlength ▸ Field.row_end_le hr d) hlimit
  · rw [length_of_grant hg, serves.length_exporter]
    exact hrows.length
  · rw [windowOf_of_granting granting, serves.layout_eq]
    exact ⟨_, rfl⟩
  · rintro rfl module α program through ran writes g
    refine ⟨serves.overwrites_run module program through, fun r hr j hj => ?_⟩
    have hend := Field.row_end_le hr d
    have hinside : r * d + j < f.values.length := by omega
    rw [Field.getElem?_rowOf, Field.getElem?_rowOf, if_pos hj, if_pos hj]
    exact getElem?_putAll hinside writes

def pairs : Field := ⟨⟨0⟩, "v", 2, [0.0, 0.0, 0.0, 0.0, 0.0, 0.0], true⟩

def paired : Coupling :=
  { start default with cells := [⟨Edit.run (.plane "m")
    [.createVertex [0, 0], .createVertex [1, 0], .createVertex [2, 0], .createField "v" 2,
      .allocate], .free⟩] }

/-- A program that writes the first component of the last row and the last one of the first. -/
def corners (target : Object) : Program Unit :=
  .ask (.assign target (.tuple [2, 0]) (.float 4)) fun _ =>
    .query (.assign target (.tuple [0, -1]) (.float 3))

/-- The two entries are written where the field has them, and no others. -/
theorem array_rows_exact_pairs :
    let c' := (paired.lend none ⟨0⟩ ⟨0, pairs⟩ true).2
    let target : Object := .window ⟨0, 0, pairs.layout⟩
    let ran := (c'.run "act" (corners target)).2
    (paired.mesh ⟨0⟩).fields[0]? = some pairs ∧ 1 ≤ pairs.components ∧
      pairs.values.length = 3 * pairs.components ∧ pairs.values.length ≤ Length.capacity ∧
      c'.Serves 0 ⟨0⟩ ⟨0, pairs⟩ true [0.0, 0.0, 0.0, 0.0, 0.0, 0.0] ∧
      WritesThrough "act" 0 (corners target) c' ∧
      pairs.layout = ⟨0, [3, 2], [16, 8]⟩ ∧ pairs.layout.RowMajor 48 3 2 ∧
      (∃ f, (ran.mesh ⟨0⟩).fields[0]? = some f ∧ f.rowOf 0 = [0, 3] ∧ f.rowOf 1 = [0, 0] ∧
        f.rowOf 2 = [4, 0]) ∧
      ran.readItem target (.tuple [-1, 0]) = .ok (.float 4) := by
  intro c' target ran
  have serves : c'.Serves 0 ⟨0⟩ ⟨0, pairs⟩ true [0.0, 0.0, 0.0, 0.0, 0.0, 0.0] := ⟨⟨false, rfl⟩, rfl, rfl⟩
  have through : WritesThrough "act" 0 (corners target) c' :=
    ⟨fun h => absurd rfl h, fun h => absurd rfl h, trivial⟩
  have hcomponents : 1 ≤ pairs.components := by decide
  have hcovers : pairs.values.length = 3 * pairs.components := rfl
  have hstored : pairs.values.length ≤ Length.capacity := by decide
  obtain ⟨hrows, -, -, -, -, hlater⟩ := array_rows_exact (c := paired) (k := ⟨0⟩) (p := ⟨0, pairs⟩)
    (n := 3) rfl hcomponents (by decide) hcovers hstored none true
  obtain ⟨-, -, -, -, -, -, hwrites⟩ := hlater c' _ serves
  obtain ⟨hoverwrites, -⟩ := hwrites rfl "act" Unit (corners target) through
  obtain ⟨-, -, -, -, -, hreads, -⟩ := hlater ran _ hoverwrites.serves
  refine ⟨rfl, hcomponents, hcovers, hstored, serves, through, rfl, hrows,
    ⟨_, hoverwrites.serves.stands, rfl, rfl, rfl⟩, (hreads 0 _ _).mpr ?_⟩
  have hkey : (Index.tuple [-1, 0]).Addresses pairs.layout.shape (Layout.rowIndex 2 2 0) :=
    .cons ⟨by decide, .inr rfl⟩ (.cons ⟨by decide, .inl rfl⟩ .nil)
  exact ⟨2, by decide, 0, by decide, 4, hkey, rfl, rfl⟩

end Coupling

end FieldMesh

import FieldMesh.Mesh.Validate

/-! # Edits

Every way to change a mesh. An edit answers and leaves a mesh; a refused edit leaves the mesh
it found, and an edit that stops at a fault leaves what it had done by then. `Edit` names the
edits as data, so that whole runs are lists.
-/

namespace FieldMesh

/-- What an edit answers, and the mesh it leaves whether or not it succeeded. -/
structure Edited (α : Type) where
  answer : Except (Failure MeshError) α
  mesh : Mesh

namespace Edited

def refuse {α : Type} (m : Mesh) (e : MeshError) : Edited α := ⟨.error (.refused e), m⟩

/-- An edit that is done once the invariants of the mesh it leaves hold. -/
def guarded {α : Type} (m : Mesh) (context : String) (a : α) : Edited α :=
  ⟨(m.assert context).map fun _ => a, m⟩

def discard {α : Type} (r : Edited α) : Edited Unit := ⟨r.answer.map fun _ => (), r.mesh⟩

@[simp] theorem mesh_refuse {α : Type} (m : Mesh) (e : MeshError) :
    (refuse m e : Edited α).mesh = m := rfl

@[simp] theorem mesh_guarded {α : Type} (m : Mesh) (context : String) (a : α) :
    (guarded m context a).mesh = m := rfl

@[simp] theorem mesh_discard {α : Type} (r : Edited α) : r.discard.mesh = r.mesh := rfl

end Edited

namespace Mesh

/-- Edits the fields in order; what was edited before a fault stays edited. -/
def editFields {α : Type} (m : Mesh) (edit : Field → Except Fault Field) (a : α) : Edited α :=
  let edited := Field.editEach edit m.fields
  ⟨match edited.1 with
    | none => .ok a
    | some fault => .error (.fault fault), { m with fields := edited.2 }⟩

/-- Adds a vertex under a new id; allocated fields gain a zero row. -/
def createVertex (m : Mesh) (components : List Float) : Edited VertexId :=
  match m.coords components with
  | .error e => .refuse m e
  | .ok c =>
    let id : VertexId := ⟨m.nextId⟩
    let grown : Mesh := { m with
      nextId := m.nextId + 1
      slots := m.slots.insert id m.vertices.length
      vertices := m.vertices ++ [⟨id, c⟩] }
    grown.editFields (fun f => if f.allocated then f.resize grown.vertices.length else .ok f) id

def moveVertex (m : Mesh) (v : VertexId) (components : List Float) : Edited Unit :=
  match m.coords components with
  | .error e => .refuse m e
  | .ok c =>
    match m.slots[v]? with
    | none => .refuse m (.unknownVertex v)
    | some slot =>
      ⟨.ok (), { m with vertices := m.vertices.modify slot fun w => { w with coords := c } }⟩

/-- The slots once the vertex of a slot is gone: later vertices move up by one. -/
def closeGap (slots : Std.ExtTreeMap VertexId Nat) (later : List Vertex) :
    Std.ExtTreeMap VertexId Nat :=
  later.foldl (fun slots w => slots.modify w.id (· - 1)) slots

/-- Groups are counted anew against the live vertices and the present elements. -/
def refilterGroups (m : Mesh) : Mesh :=
  { m with groups := m.groups.map (·.refilter m.isLive m.edges m.triangles) }

/-- Removes a vertex with its elements and its rows; the groups follow. -/
def removeVertex (m : Mesh) (v : VertexId) : Edited Unit :=
  match m.slots[v]? with
  | none => .refuse m (.unknownVertex v)
  | some slot =>
    let vertices := m.vertices.eraseIdx slot
    let pruned : Mesh := { m with
      vertices := vertices
      slots := closeGap (m.slots.erase v) (vertices.drop slot)
      edges := m.edges.filter fun e => !e.touches v
      triangles := m.triangles.filter fun t => !t.touches v }
    let cut := pruned.editFields (fun f => f.removeSlot slot) ()
    match cut.answer with
    | .error c => ⟨.error c, cut.mesh⟩
    | .ok () => .guarded cut.mesh.refilterGroups s!"mesh `{m.name}` after removing {v}" ()

/-- Adds an edge and offers it to the groups. -/
def createEdge (m : Mesh) (a b : VertexId) : Edited Nat :=
  match m.checkCorners [] [a, b] with
  | .error e => .refuse m e
  | .ok () =>
    let edge : Edge := ⟨a, b⟩
    ⟨.ok m.edges.length, { m with
      edges := m.edges ++ [edge]
      groups := m.groups.map (·.offerEdge m.edges.length edge) }⟩

def createTriangle (m : Mesh) (a b c : VertexId) : Edited Nat :=
  match m.checkCorners [] [a, b, c] with
  | .error e => .refuse m e
  | .ok () =>
    let triangle : Triangle := ⟨a, b, c⟩
    ⟨.ok m.triangles.length, { m with
      triangles := m.triangles ++ [triangle]
      groups := m.groups.map (·.offerTriangle m.triangles.length triangle) }⟩

def createField (m : Mesh) (name : String) (components : Nat) : Edited FieldId :=
  if components = 0 then .refuse m (.noComponents name)
  else if m.fields.any (·.name == name) then .refuse m (.duplicateName m.name name)
  else
    let id : FieldId := ⟨m.fields.length⟩
    ⟨.ok id, { m with fields := m.fields ++ [Field.declare id name components] }⟩

/-- Sizes every field for the present vertices. -/
def allocate (m : Mesh) : Edited Unit :=
  let sized := m.editFields (fun f => f.resize m.vertices.length) ()
  match sized.answer with
  | .error c => ⟨.error c, sized.mesh⟩
  | .ok () => .guarded sized.mesh s!"mesh `{m.name}` after data allocation" ()

/-- The vertices of a new group in order of first mention, all of them live. -/
def selectAll (m : Mesh) : List VertexId → List VertexId → Except MeshError (List VertexId)
  | selected, [] => .ok selected
  | selected, v :: vs =>
    if m.isLive v then
      m.selectAll (if selected.contains v then selected else selected ++ [v]) vs
    else .error (.unknownVertex v)

def createGroup (m : Mesh) (name : String) (vs : List VertexId) : Edited Unit :=
  if m.hasEntry name then .refuse m (.duplicateName m.name name)
  else
    match m.selectAll [] vs with
    | .error e => .refuse m e
    | .ok selected =>
      let group := (Group.ofSelection name selected).refilter m.isLive m.edges m.triangles
      .guarded { m with groups := m.groups ++ [group] } "invariant violated" ()

/-- Overwrites the front of the values of a field. -/
def setValues (m : Mesh) (d : FieldId) (values : List Float) : Edited Unit :=
  match m.field d with
  | .error e => .refuse m e
  | .ok f => ⟨.ok (), m.setFieldValues d.raw (f.setValues values).values⟩

/-- Overwrites the front of one row of a field and tells whether there is such a row. -/
def setRow (m : Mesh) (d : FieldId) (slot : Nat) (values : List Float) : Edited Bool :=
  match m.field d with
  | .error e => .refuse m e
  | .ok f =>
    match f.setRow slot values with
    | .error c => ⟨.error (.fault c), m⟩
    | .ok none => ⟨.ok false, m⟩
    | .ok (some g) => ⟨.ok true, m.setFieldValues d.raw g.values⟩

/-- Puts any field in the place of another. -/
def putField (m : Mesh) (d : FieldId) (f : Field) : Edited Unit :=
  match m.field d with
  | .error e => .refuse m e
  | .ok _ => ⟨.ok (), { m with fields := m.fields.set d.raw f }⟩

end Mesh

inductive Edit where
  | createVertex (components : List Float)
  | moveVertex (vertex : VertexId) (components : List Float)
  | removeVertex (vertex : VertexId)
  | createEdge (a b : VertexId)
  | createTriangle (a b c : VertexId)
  | createField (name : String) (components : Nat)
  | allocate
  | createGroup (name : String) (vertices : List VertexId)
  | setValues (field : FieldId) (values : List Float)
  | setRow (field : FieldId) (slot : Nat) (values : List Float)
  | putField (field : FieldId) (replacement : Field)

namespace Edit

def apply (m : Mesh) : Edit → Edited Unit
  | createVertex cs => (m.createVertex cs).discard
  | moveVertex v cs => m.moveVertex v cs
  | removeVertex v => m.removeVertex v
  | createEdge a b => (m.createEdge a b).discard
  | createTriangle a b c => (m.createTriangle a b c).discard
  | createField name n => (m.createField name n).discard
  | allocate => m.allocate
  | createGroup name vs => m.createGroup name vs
  | setValues d xs => m.setValues d xs
  | setRow d slot xs => (m.setRow d slot xs).discard
  | putField d f => m.putField d f

/-- The mesh after a run of edits, whether or not each of them succeeded. -/
def run (m : Mesh) (edits : List Edit) : Mesh := edits.foldl (fun m e => (e.apply m).mesh) m

@[simp] theorem run_nil (m : Mesh) : run m [] = m := rfl

@[simp] theorem run_cons (m : Mesh) (e : Edit) (edits : List Edit) :
    run m (e :: edits) = run (e.apply m).mesh edits := rfl

theorem run_append (m : Mesh) (first second : List Edit) :
    run m (first ++ second) = run (run m first) second := by simp [run]

end Edit

end FieldMesh

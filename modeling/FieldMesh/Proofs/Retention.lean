import FieldMesh.Proofs.Imports
import FieldMesh.Proofs.Requests
import FieldMesh.Proofs.Sessions
import FieldMesh.Proofs.Writes

/-! # Memory that is kept

The module may keep windows of the memory that it was lent. A field whose memory is kept is found
out when its loan is ended, whatever else the module did, and it goes on with its values while what
is kept stands for a copy. After the call no exporter stands for a field of the mesh any more.
-/

namespace FieldMesh

namespace Interpreter

variable {s : Interpreter} {exporter : Nat}

/-- A module keeps a window of an exporter, or one has been stored for good. -/
def Keeps (s : Interpreter) (exporter : Nat) : Prop :=
  ∃ w : Window, .window w ∈ s.stored ++ s.modules.flatMap (·.kept) ∧ w.exporter = exporter

theorem refers_collect_iff :
    s.collect.Refers exporter ↔
      (∃ w : Window, .window w ∈ s.frame ∧ w.exporter = exporter) ∨ s.Keeps exporter := by
  simp only [Refers, Keeps, live, collect, List.append_nil, List.mem_append, or_assoc, or_and_right,
    exists_or]

end Interpreter

def LentField.KeptIn (f : LentField) (s : Interpreter) : Prop :=
  ∃ id o, f.loan = .array id o ∧ s.Keeps id

/-- An array that is a window is one of the memory it was made of. -/
def OwnWindows (lent : List LentField) : Prop :=
  ∀ f ∈ lent, ∀ id w, f.loan = .array id (.window w) → w.exporter = id

namespace Coupling

variable {c c' : Coupling} {f : LentField} {lent before after : List LentField}

theorem GivesBack.keeps_iff {loans : List Loan} (h : GivesBack loans c c') {exporter : Nat} :
    c'.interpreter.Keeps exporter ↔ c.interpreter.Keeps exporter := by
  simp only [Interpreter.Keeps, h.stored, h.modules]

theorem keptIn_endLoans_iff (c : Coupling) (lent : List LentField) :
    f.KeptIn (c.endLoans lent).2.interpreter ↔ f.KeptIn c.interpreter := by
  simp only [LentField.KeptIn, (givesBack_endLoans lent c).keeps_iff]

/-! ## Which loans come back retained -/

theorem retains_of_kept (h : f.KeptIn c.interpreter) : c.Retains f.loan := by
  obtain ⟨id, o, hloan, hkeeps⟩ := h
  exact ⟨id, o, hloan, Interpreter.refers_collect_iff.mpr (.inr hkeeps)⟩

/-- A loan is retained only if its memory is kept, provided that no other argument is a window of
it. -/
theorem kept_of_retains (h : c.Retains f.loan)
    (hframe : c.interpreter.frame = f.loan.object :: after.map (·.loan.object))
    (hown : OwnWindows after)
    (hapart : ∀ g ∈ after, ∀ id, f.loan.isOf id = true → g.loan.isOf id = false) :
    f.KeptIn c.interpreter := by
  obtain ⟨id, o, hloan, hrefers⟩ := h
  obtain ⟨w, hw, hexporter⟩ | hkeeps := Interpreter.refers_collect_iff.mp hrefers
  · have hrest : (c.letGo o).interpreter.frame = after.map (·.loan.object) := by
      change c.interpreter.frame.erase o = _
      rw [hframe, hloan, Loan.object, List.erase_cons_head]
    rw [hrest] at hw
    obtain ⟨g, hg, hobject⟩ := List.mem_map.mp hw
    have hof := hapart g hg id (Loan.isOf_iff.mpr ⟨o, hloan⟩)
    cases hgloan : g.loan with
    | array id' o' =>
      rw [hgloan, Loan.object] at hobject
      have hown' := hown g hg id' w (hobject ▸ hgloan)
      rw [hgloan, ← hown', hexporter] at hof
      simp [Loan.isOf] at hof
    | copy ref writable components =>
      rw [hgloan, Loan.object] at hobject
      cases hobject
  · exact ⟨id, o, hloan, hkeeps⟩

theorem not_retained_of_not_kept (hframe : c.interpreter.frame = lent.map (·.loan.object))
    (hsplit : lent = before ++ after) (hown : OwnWindows lent)
    (hapart : lent.Pairwise fun f g => ∀ id, f.loan.isOf id = true → g.loan.isOf id = false)
    (hnot : ∀ g ∈ before, ¬ g.KeptIn c.interpreter) :
    ∀ e ∈ (c.endLoans before).1, ¬ e.2.isRetained = true := by
  intro e he hretained
  obtain ⟨front, g, back, rfl, hretains⟩ := (exists_retained_iff before c).mp ⟨e, he, hretained⟩
  rw [List.append_assoc, List.cons_append] at hsplit
  subst hsplit
  have hleft : (c.endLoans front).2.interpreter.frame =
      g.loan.object :: (back ++ after).map (·.loan.object) := by
    refine (givesBack_endLoans front c).frame_eq (hframe.trans ?_)
    rw [List.map_append, List.map_map]
    rfl
  have hkept := kept_of_retains hretains hleft
    (fun g' hg' => hown g' (List.mem_append_right _ (List.mem_cons_of_mem _ hg')))
    (List.pairwise_cons.mp (List.pairwise_append.mp hapart).2.1).1
  exact hnot g (List.mem_append_right _ List.mem_cons_self)
    ((keptIn_endLoans_iff c front).mp hkept)

/-- The first retained loan is that of the first field that is kept. -/
theorem find?_retained (hframe : c.interpreter.frame = lent.map (·.loan.object))
    (hsplit : lent = before ++ f :: after) (hown : OwnWindows lent)
    (hapart : lent.Pairwise fun f g => ∀ id, f.loan.isOf id = true → g.loan.isOf id = false)
    (hkept : f.KeptIn c.interpreter) (hnot : ∀ g ∈ before, ¬ g.KeptIn c.interpreter) :
    ∃ n, (c.endLoans lent).1.find? (·.2.isRetained) = some (f, .retained n) := by
  have hnone : (c.endLoans before).1.find? (·.2.isRetained) = none :=
    List.find?_eq_none.mpr (not_retained_of_not_kept hframe hsplit hown hapart hnot)
  obtain ⟨n, hn⟩ := endLoan_retained_iff.mpr
    (retains_of_kept ((keptIn_endLoans_iff c before).mpr hkept))
  refine ⟨n, ?_⟩
  rw [hsplit, errors_endLoans_append, List.find?_append, hnone, Option.none_or,
    errors_endLoans_cons, hn]
  rfl

theorem exists_find?_retained (hf : f ∈ lent) (hkept : f.KeptIn c.interpreter) :
    ∃ g n, (c.endLoans lent).1.find? (·.2.isRetained) = some (g, .retained n) := by
  obtain ⟨before, after, hsplit⟩ := List.append_of_mem hf
  obtain ⟨e, he, hretained⟩ := (exists_retained_iff lent c).mpr ⟨before, f, after, hsplit,
    retains_of_kept ((keptIn_endLoans_iff c before).mpr hkept)⟩
  cases hfind : (c.endLoans lent).1.find? (·.2.isRetained) with
  | none => exact absurd hretained (List.find?_eq_none.mp hfind e he)
  | some x =>
    obtain ⟨g, n | reason⟩ := x
    · exact ⟨g, n, rfl⟩
    · exact nomatch List.find?_some hfind

/-- A loan whose memory is referred to when all loans have been ended has come back retained. -/
theorem retained_of_refers {id : Nat} {o : Object} (hf : f ∈ lent) (hloan : f.loan = .array id o)
    (hrefers : (c.endLoans lent).2.interpreter.Refers id) :
    ∃ n, (f, .retained n) ∈ (c.endLoans lent).1 := by
  obtain ⟨before, after, rfl⟩ := List.append_of_mem hf
  rw [state_endLoans_append, state_endLoans_cons] at hrefers
  have hopen := (givesBack_endLoans after _).refers hrefers
  rw [errors_endLoans_append, errors_endLoans_cons]
  generalize (c.endLoans before).2 = c' at hopen ⊢
  obtain ⟨n, hn⟩ : ∃ n, (c'.endLoan f.loan).1 = .error (.retained n) := by
    have hpos := (Interpreter.exports_pos_iff _ _).mpr hopen
    rw [hloan] at hpos ⊢
    exact ⟨_, endLoan_of_open (Nat.ne_of_gt hpos)⟩
  refine ⟨n, List.mem_append_right _ (List.mem_append_left _ ?_)⟩
  rw [hn]
  exact List.mem_singleton_self _

/-! ## Fields that are cut off -/

/-- An exporter stands for a block of its own with some values. -/
def StandsAlone (c : Coupling) (id block : Nat) (values : List Float) : Prop :=
  (∃ e, c.interpreter.exporters[id]? = some e ∧ e.memory = .detached block) ∧
    c.interpreter.blocks[block]? = some values

section Detach

variable {k : MeshKey} {d : FieldId} {id block : Nat} {values : List Float}

theorem StandsAlone.cut (h : c.StandsAlone id block values) (k : MeshKey) : c.Cut k id := by
  obtain ⟨⟨e, he, hmemory⟩, -⟩ := h
  exact ⟨e, he, fun position hlent => nomatch hmemory.symm.trans hlent⟩

theorem StandsAlone.of_eq (h : c.StandsAlone id block values)
    (hexporters : c'.interpreter.exporters = c.interpreter.exporters)
    (hblocks : c'.interpreter.blocks = c.interpreter.blocks) : c'.StandsAlone id block values := by
  rwa [StandsAlone, hexporters, hblocks]

theorem StandsAlone.detach (h : c.StandsAlone id block values) (k : MeshKey) (d : FieldId) :
    (c.detach k d).StandsAlone id block values := by
  obtain ⟨⟨e, he, hmemory⟩, hblock⟩ := h
  unfold Coupling.detach
  split
  · exact ⟨⟨e, he, hmemory⟩, hblock⟩
  · refine ⟨⟨e, ?_, hmemory⟩, ?_⟩
    · simp only [setInterpreter, List.getElem?_map, he, Option.map_some, hmemory, reduceCtorEq,
        if_false]
    · simp only [setInterpreter]
      rw [List.getElem?_append_left (List.getElem?_eq_some_iff.mp hblock).1, hblock]

theorem StandsAlone.foldl_detach (h : c.StandsAlone id block values) (k : MeshKey)
    (ds : List FieldId) : (ds.foldl (fun c d => c.detach k d) c).StandsAlone id block values := by
  induction ds generalizing c with
  | nil => exact h
  | cons d ds ih => exact ih (h.detach k d)

theorem cells_detach (c : Coupling) (k : MeshKey) (d : FieldId) :
    (c.detach k d).cells = c.cells := by
  unfold Coupling.detach
  split <;> rfl

theorem cells_foldl_detach (c : Coupling) (k : MeshKey) (ds : List FieldId) :
    (ds.foldl (fun c d => c.detach k d) c).cells = c.cells := by
  induction ds generalizing c with
  | nil => rfl
  | cons d ds ih => rw [List.foldl_cons, ih, cells_detach]

theorem length_exporters_foldl_detach (c : Coupling) (k : MeshKey) (ds : List FieldId) :
    (ds.foldl (fun c d => c.detach k d) c).interpreter.exporters.length =
      c.interpreter.exporters.length := by
  induction ds generalizing c with
  | nil => rfl
  | cons d ds ih =>
    rw [List.foldl_cons, ih]
    unfold Coupling.detach
    split
    · rfl
    · exact List.length_map _

theorem standsAlone_detach {e : Exporter} {g : Field} (he : c.interpreter.exporters[id]? = some e)
    (hmemory : e.memory = .lent k d.raw) (hg : (c.mesh k).field d = .ok g) :
    (c.detach k d).StandsAlone id c.interpreter.blocks.length g.values := by
  simp only [Coupling.detach, hg]
  refine ⟨⟨{ e with memory := .detached c.interpreter.blocks.length }, ?_, rfl⟩, ?_⟩
  · simp only [setInterpreter, List.getElem?_map, he, Option.map_some, hmemory, if_true]
  · exact List.getElem?_concat_length

theorem exporter_detach {d' : FieldId} {e : Exporter} (he : c.interpreter.exporters[id]? = some e)
    (hmemory : e.memory = .lent k d.raw) (hne : d' ≠ d) :
    (c.detach k d').interpreter.exporters[id]? = some e := by
  have hother : e.memory ≠ .lent k d'.raw := by
    rw [hmemory]
    intro h
    injection h with _ hraw
    exact hne (by cases d; cases d'; exact congrArg _ hraw.symm)
  unfold Coupling.detach
  split
  · exact he
  · simp only [setInterpreter, List.getElem?_map, he, Option.map_some, if_neg hother]

theorem length_blocks_detach (c : Coupling) (k : MeshKey) (d : FieldId) :
    c.interpreter.blocks.length ≤ (c.detach k d).interpreter.blocks.length := by
  unfold Coupling.detach
  split
  · exact Nat.le_refl _
  · simp only [setInterpreter, List.length_append]
    exact Nat.le_add_right _ _

/-- One of several fields that are cut off. The induction is on the fields; those that are cut off
before it leave its exporters alone, and those after it leave its block alone. -/
theorem exists_standsAlone {ds : List FieldId} {e : Exporter} {g : Field} (hd : d ∈ ds)
    (he : c.interpreter.exporters[id]? = some e) (hmemory : e.memory = .lent k d.raw)
    (hg : (c.mesh k).field d = .ok g) :
    ∃ block, c.interpreter.blocks.length ≤ block ∧
      (ds.foldl (fun c d => c.detach k d) c).StandsAlone id block g.values := by
  induction ds generalizing c with
  | nil => exact nomatch hd
  | cons d' ds ih =>
    by_cases hfirst : d' = d
    · subst hfirst
      exact ⟨_, Nat.le_refl _, (standsAlone_detach he hmemory hg).foldl_detach k ds⟩
    · obtain ⟨block, hblock, halone⟩ := ih ((List.mem_cons.mp hd).resolve_left (Ne.symm hfirst))
        (exporter_detach he hmemory hfirst) (by rwa [mesh_of_cells (cells_detach c k d')])
      exact ⟨block, Nat.le_trans (length_blocks_detach c k d') hblock, halone⟩

end Detach

/-! ## Which exporters stand for a field -/

/-- No export of the memory of a field of a mesh is open. -/
def Unexported (c : Coupling) (k : MeshKey) : Prop :=
  ∀ (id : Nat) (e : Exporter) (position : Nat), c.interpreter.exporters[id]? = some e →
    e.memory = .lent k position → c.interpreter.exports id = 0

/-- No exporter stands for a field of a mesh. -/
def Sealed (c : Coupling) (k : MeshKey) : Prop := ∀ id < c.interpreter.exporters.length, c.Cut k id

section Retire

variable {k : MeshKey} {id : Nat} {e : Exporter}

theorem exporter_retire_of_open (hopen : c.interpreter.exports id ≠ 0) :
    c.interpreter.retire.exporters[id]? = c.interpreter.exporters[id]? := by
  have hbeq : (c.interpreter.exports id == 0) = false := beq_false_of_ne hopen
  simp only [Interpreter.retire, List.getElem?_mapIdx, hbeq, Bool.and_false, Bool.false_eq_true,
    if_false, Option.map_id_fun', id_eq]

theorem AtRest.cut_retire (h : c.AtRest) (he : c.interpreter.exporters[id]? = some e)
    (hclosed : c.interpreter.exports id = 0) (k : MeshKey) :
    (c.setInterpreter c.interpreter.retire).Cut k id := by
  refine ⟨{ e with memory := .unreachable }, ?_, fun _ hlent => nomatch hlent⟩
  simp only [setInterpreter, Interpreter.retire, List.getElem?_mapIdx, he, Option.map_some,
    h.revoked id e he, hclosed, beq_self_eq_true, Bool.and_self, if_true]

/-- Where no export is open, all exporters are put out of reach. -/
theorem Unexported.sealed (h : c.Unexported k) (hrest : c.AtRest) :
    (c.setInterpreter c.interpreter.retire).Sealed k := by
  intro id hlt
  have hold : id < c.interpreter.exporters.length := by
    simpa [setInterpreter, Interpreter.retire] using hlt
  have he := List.getElem?_eq_getElem hold
  by_cases hclosed : c.interpreter.exports id = 0
  · exact hrest.cut_retire he hclosed k
  · exact ⟨_, (exporter_retire_of_open hclosed).trans he,
      fun position hlent => hclosed (h id _ position he hlent)⟩

end Retire

/-! ## After the loans -/

/-- The coupling when the fields that have come back retained have been cut off. -/
def detachRetained (k : MeshKey) (errors : List (LentField × LoanError)) (ended : Coupling) :
    Coupling :=
  ((errors.filter (·.2.isRetained)).map (·.1.id)).foldl (fun c d => c.detach k d)
    (ended.setInterpreter ended.interpreter.retire)

/-- Fields of a mesh that carry their positions were lent at rest, when no exporter stood for a
field of it; user code ran, and the loans were ended. -/
structure Returned (k : MeshKey) (placed : List Placed) (lent : List LentField)
    (errors : List (LentField × LoanError)) (c lending ran ended : Coupling) : Prop where
  isSealed : c.Sealed k
  atRest : c.AtRest
  lends : Lends k placed lent c lending
  confined : lending.Confined ran
  endLoans_eq : ran.endLoans lent = (errors, ended)
  numbered : ∀ p ∈ placed,
    p.field.id = ⟨p.position⟩ ∧ (c.mesh k).fields[p.position]? = some p.field

namespace Returned

variable {k : MeshKey} {placed : List Placed} {errors : List (LentField × LoanError)}
  {lending ran ended : Coupling} {id : Nat} {e : Exporter}

theorem givesBack (h : Returned k placed lent errors c lending ran ended) :
    GivesBack (lent.map (·.loan)) ran ended := by
  have hgives := givesBack_endLoans lent ran
  rwa [h.endLoans_eq] at hgives

theorem memory_eq (h : Returned k placed lent errors c lending ran ended) (hf : f ∈ lent)
    {o : Object} (hloan : f.loan = .array id o) :
    ∃ e, ended.interpreter.exporters[id]? = some e ∧ e.memory = .lent k f.id.raw := by
  obtain ⟨p, hp, hback⟩ := h.lends.exists_backs hf
  obtain ⟨-, e, he, hmemory⟩ := hback.memory id o hloan
  refine ⟨{ e with revoked := e.revoked || (lent.map (·.loan)).any (·.isOf id) }, ?_, ?_⟩
  · rw [h.givesBack.exporters, h.confined.exporters, Loan.getElem?_revokeAll, he, Option.map_some]
  · rw [hback.id, (h.numbered p hp).1]
    exact hmemory

theorem exists_field (h : Returned k placed lent errors c lending ran ended) (hf : f ∈ lent) :
    ∃ g, (ran.mesh k).field f.id = .ok g := by
  obtain ⟨p, hp, hback⟩ := h.lends.exists_backs hf
  obtain ⟨hid, hfield⟩ := h.numbered p hp
  have hlength := congrArg List.length ((h.confined.fieldIds k).trans (h.lends.fieldIds k))
  rw [List.length_map, List.length_map] at hlength
  have hlt : p.position < (ran.mesh k).fields.length := by
    rw [hlength]
    exact (List.getElem?_eq_some_iff.mp hfield).1
  refine ⟨(ran.mesh k).fields[p.position], Mesh.field_eq_ok_iff.mpr ?_⟩
  rw [hback.id, hid]
  exact List.getElem?_eq_getElem hlt

theorem mesh_detachRetained (h : Returned k placed lent errors c lending ran ended)
    (other : MeshKey) :
    (detachRetained k errors ended).mesh other = ran.mesh other :=
  mesh_of_cells ((cells_foldl_detach (ended.setInterpreter ended.interpreter.retire) k _).trans
    h.givesBack.cells) other

/-- A field whose memory is still referred to goes on by itself. -/
theorem standsAlone (h : Returned k placed lent errors c lending ran ended) {o : Object}
    (hf : f ∈ lent) (hloan : f.loan = .array id o) (hopen : ended.interpreter.exports id ≠ 0) :
    ∃ g block, (ran.mesh k).field f.id = .ok g ∧ ran.interpreter.blocks.length ≤ block ∧
      (detachRetained k errors ended).StandsAlone id block g.values := by
  obtain ⟨g, hg⟩ := h.exists_field hf
  obtain ⟨e, he, hmemory⟩ := h.memory_eq hf hloan
  have hrefers := (Interpreter.exports_pos_iff _ _).mp (Nat.pos_of_ne_zero hopen)
  have hended : (ran.endLoans lent).2 = ended := congrArg Prod.snd h.endLoans_eq
  rw [← hended] at hrefers
  obtain ⟨n, hn⟩ := retained_of_refers hf hloan hrefers
  rw [h.endLoans_eq] at hn
  have hkept : f.id ∈ (errors.filter (·.2.isRetained)).map (·.1.id) :=
    List.mem_map.mpr ⟨(f, .retained n), List.mem_filter.mpr ⟨hn, rfl⟩, rfl⟩
  have hmesh : (ended.setInterpreter ended.interpreter.retire).mesh k = ran.mesh k :=
    mesh_of_cells h.givesBack.cells k
  obtain ⟨block, hblock, halone⟩ := exists_standsAlone
    (c := ended.setInterpreter ended.interpreter.retire) hkept
    ((exporter_retire_of_open hopen).trans he) hmemory (by rw [hmesh, hg])
  refine ⟨g, block, hg, ?_, halone⟩
  rw [← h.givesBack.blocks]
  exact hblock

/-- Once the fields whose loans have come back retained have been cut off, no exporter stands for a
field of the mesh. -/
theorem sealed_detachRetained (h : Returned k placed lent errors c lending ran ended) :
    (detachRetained k errors ended).Sealed k := by
  intro id hlt
  have hold : id < ended.interpreter.exporters.length := by
    rw [detachRetained, length_exporters_foldl_detach] at hlt
    simpa [setInterpreter, Interpreter.retire] using hlt
  obtain ⟨e, he⟩ : ∃ e, ended.interpreter.exporters[id]? = some e :=
    ⟨_, List.getElem?_eq_getElem hold⟩
  have hlater := Works.foldl (fun c d => .detach c k d)
    ((errors.filter (·.2.isRetained)).map (·.1.id)) (ended.setInterpreter ended.interpreter.retire)
  -- Nobody refers to the exporter, or it is older than the loans, or it was made for one of them.
  by_cases hclosed : ended.interpreter.exports id = 0
  · have hrest := (h.lends.works h.confined h.givesBack).atRest h.atRest
    exact hlater.cut k id (hrest.cut_retire he hclosed k)
  · rcases Nat.lt_or_ge id c.interpreter.exporters.length with hbefore | hnew
    · have hcut := (h.lends.toOpens.cut (h.isSealed id hbefore)).of_eq h.confined.exporters
      exact hlater.cut k id (hcut.givesBack h.givesBack).retire
    · rw [h.givesBack.exporters, h.confined.exporters, Loan.getElem?_revokeAll] at he
      obtain ⟨_, he, -⟩ := Option.map_eq_some_iff.mp he
      obtain ⟨f, hf, o, hloan⟩ := h.lends.owned id hnew (List.getElem?_eq_some_iff.mp he).1
      obtain ⟨_, _, _, _, halone⟩ := h.standsAlone hf hloan hclosed
      exact halone.cut k

end Returned

/-! ## User code after the call -/

section Later

variable {k : MeshKey} {id : Nat}

theorem Cut.mesh_setValue (h : c.Cut k id) (position : Nat) (x : Float) :
    (c.setValue (c.exporter id).memory position x).mesh k = c.mesh k := by
  obtain ⟨e, he, hmemory⟩ := h
  rw [exporter, he, Option.getD_some]
  cases hkind : e.memory with
  | lent other field =>
    have hother : k ≠ other := fun hk => hmemory field (hk ▸ hkind)
    exact mesh_setMesh_of_ne hother _
  | detached block => rfl
  | unreachable => rfl

theorem Cut.mesh_writeItem {w : Window} {x : Index} {v : Value} (h : c.Cut k w.exporter)
    (hwrite : c.writeItem (.window w) x v = .ok c') : c'.mesh k = c.mesh k := by
  obtain ⟨-, position, number, rfl⟩ := writeItem_window hwrite
  exact h.mesh_setValue position number

theorem Sealed.of_eq (h : c.Sealed k)
    (hexporters : c'.interpreter.exporters = c.interpreter.exporters) :
    c'.Sealed k := by
  intro id hlt
  rw [hexporters] at hlt
  exact (h id hlt).of_eq hexporters

theorem Sealed.guarded (h : c.Sealed k) (target : Option FieldId) : c.Guarded k target := by
  intro id e position he _ hmemory
  obtain ⟨e', he', hcut⟩ := h id (List.getElem?_eq_some_iff.mp he).1
  cases he.symm.trans he'
  exact absurd hmemory (hcut position)

/-- When no exporter stands for a field of a mesh, user code leaves the mesh alone. -/
theorem Sealed.mesh_eq (h : c.Sealed k) (hrun : c.UserRun c') : c'.mesh k = c.mesh k :=
  ((h.guarded none).userRun hrun).rewrites.eq_of_none

end Later

end Coupling

namespace Mesh

variable {m : Mesh} {source target : Option FieldId} {sel : Selection}

theorem placed_of_select (selected : m.select source target = .ok sel) (numbered : m.Numbered)
    {p : Placed} (hp : p ∈ sel.placed) :
    p.field.id = ⟨p.position⟩ ∧ m.fields[p.position]? = some p.field := by
  obtain ⟨-, -, -, rfl⟩ := select_eq_ok_iff.mp selected
  have hcarried : ∀ (o : Option FieldId), p ∈ (o.bind m.carrier?).toList →
      m.fields[p.position]? = some p.field := by
    intro o ho
    obtain ⟨d, -, hd⟩ := Option.bind_eq_some_iff.mp (Option.mem_toList.mp ho)
    exact (lastOf_zipIdx_eq_some_iff.mp hd).1
  have hfield : m.fields[p.position]? = some p.field := by
    rcases List.mem_append.mp hp with hp | hp <;> exact hcarried _ hp
  exact ⟨numbered p.position p.field hfield, hfield⟩

end Mesh

namespace ScriptedAction

variable {a : ScriptedAction} {hooks : Hooks} {fields : Selection} {step : Step}
  {c loaded lending ended : Coupling} {lent : List LentField}
  {errors : List (LentField × LoanError)}

def afterPerform (a : ScriptedAction) (hooks : Hooks) (step : Step) (lent : List LentField)
    (lending : Coupling) : Coupling :=
  let times := [step.time, step.length, step.computed, step.window]
  (lending.run a.module (hooks.perform times (lent.map (·.loan.object)))).2

namespace Lending

/-- From the loans on, when no export of the mesh was open. -/
theorem returned (h : a.Lending c hooks fields loaded (.ok lent) lending)
    (numbered : (loaded.mesh a.mesh).Numbered) (unexported : loaded.Unexported a.mesh)
    (hrest : loaded.AtRest) (step : Step)
    (hended : (a.afterPerform hooks step lent lending).endLoans lent = (errors, ended)) :
    Coupling.Returned a.mesh fields.placed lent errors
      ((loaded.setBorrow a.mesh .exclusive).setInterpreter loaded.interpreter.retire) lending
      (a.afterPerform hooks step lent lending) ended where
  isSealed := unexported.sealed hrest
  atRest := hrest.retire.of_eq rfl rfl
  lends := by
    obtain ⟨_, _, hok, hlends⟩ | ⟨_, _, herror, -⟩ := a.lendAll_cases hooks fields
      ((loaded.setBorrow a.mesh .exclusive).setInterpreter loaded.interpreter.retire)
    · cases h.built.symm.trans hok
      exact hlends
    · exact nomatch h.built.symm.trans herror
  confined := Coupling.confined_run _ _ _
  endLoans_eq := hended
  numbered p hp := by
    have hselect := mapError_eq_ok_iff.mp h.selected
    have hmesh : ((loaded.setBorrow a.mesh .exclusive).setInterpreter
        loaded.interpreter.retire).mesh a.mesh = loaded.mesh a.mesh := loaded.mesh_setBorrow _ _ _
    rw [hmesh]
    exact Mesh.placed_of_select hselect numbered hp

end Lending

/-- The error about a field of which so many exports are kept. -/
def keptError (module : String) (f : LentField) (n : Nat) : ActionError :=
  .marshal module f.name (LoanError.retained n).message

/-- Kept memory comes before everything else that went wrong. -/
theorem settle_of_retained {module : String} {outcome : Except ActionError Unit} {f : LentField}
    {n : Nat} (h : errors.find? (·.2.isRetained) = some (f, .retained n)) :
    settle module outcome errors = .error (keptError module f n) := by
  simp only [settle, h, keptError]

namespace Lending

theorem runPerform_eq (h : a.Lending c hooks fields loaded (.ok lent) lending) (step : Step)
    (hended : (a.afterPerform hooks step lent lending).endLoans lent = (errors, ended)) :
    ∃ outcome, { a with state := .ready hooks }.runPerform hooks fields step
        (loaded.setBorrow a.mesh .exclusive) =
      (settle a.module outcome errors, (errors.filter (·.2.isRetained)).map (·.1.id),
        ended.setInterpreter ended.interpreter.retire) := by
  rw [runPerform_of_lent (c := loaded.setBorrow a.mesh .exclusive) h.lendAll_ready]
  simp only [afterPerform] at hended
  simp only [hended]
  exact ⟨_, rfl⟩

end Lending

/-- A call whose module keeps memory runs none of the other functions; it cuts the fields off, and
its error disables the action. -/
theorem perform_of_retained (h : a.Lending c hooks fields loaded (.ok lent) lending)
    (hended : (a.afterPerform hooks step lent lending).endLoans lent = (errors, ended))
    {f : LentField} {n : Nat} (hfind : errors.find? (·.2.isRetained) = some (f, .retained n)) :
    a.perform step c = ⟨.error (.refused (keptError a.module f n)),
      { a with state := .failed (keptError a.module f n) },
      (((Coupling.detachRetained a.mesh errors ended).setBorrow a.mesh .free).emit .error
        (disabledText a.module (keptError a.module f n))).release⟩ := by
  obtain ⟨outcome, hperform⟩ := h.runPerform_eq step hended
  rw [settle_of_retained hfind] at hperform
  have hkept : (errors.filter (·.2.isRetained)).map (·.1.id) ≠ [] := by
    have hf := List.mem_filter.mpr ⟨List.mem_of_find?_eq_some hfind, List.find?_some hfind⟩
    exact List.ne_nil_of_mem (List.mem_map_of_mem hf)
  have hrun : { a with state := .ready hooks }.runHooks hooks step
      (loaded.setBorrow a.mesh .exclusive) =
        (.error ⟨.refused (keptError a.module f n), true⟩,
          Coupling.detachRetained a.mesh errors ended) := by
    simp only [runHooks, h.select_ready, hperform, Coupling.detachRetained]
    generalize (errors.filter (·.2.isRetained)).map (·.1.id) = kept at hkept ⊢
    cases kept with
    | nil => exact absurd rfl hkept
    | cons d ds => rfl
  rw [h.perform_eq, performReady, Coupling.checkFree_eq_ok_iff.mpr h.free]
  simp only [hrun]
  rfl

theorem exporters_performReady (hfree : c.borrow a.mesh = .free) :
    (a.performReady hooks step c).state.interpreter.exporters =
      (a.runHooks hooks step (c.setBorrow a.mesh .exclusive)).2.interpreter.exporters := by
  rw [performReady, Coupling.checkFree_eq_ok_iff.mpr hfree]
  simp only
  split <;> rename_i heq <;> rw [heq]
  · rfl
  · simp only [disable, release]
    split
    · exact Coupling.exporters_release _
    · rfl
  · rfl

theorem sealed_perform (h : a.Lending c hooks fields loaded (.ok lent) lending)
    (numbered : (loaded.mesh a.mesh).Numbered) (unexported : loaded.Unexported a.mesh)
    (hrest : loaded.AtRest) (step : Step) : (a.perform step c).state.Sealed a.mesh := by
  rcases hended : (a.afterPerform hooks step lent lending).endLoans lent with ⟨errors, ended⟩
  have hsealed := (h.returned numbered unexported hrest step hended).sealed_detachRetained
  obtain ⟨outcome, hperform⟩ := h.runPerform_eq step hended
  have hrun : ({ a with state := .ready hooks }.runHooks hooks step
      (loaded.setBorrow a.mesh .exclusive)).2.Sealed a.mesh := by
    simp only [runHooks, h.select_ready, hperform]
    rw [Coupling.detachRetained] at hsealed
    generalize (errors.filter (·.2.isRetained)).map (·.1.id) = kept at hsealed ⊢
    generalize settle a.module outcome errors = settled
    -- The other functions run only if nothing was kept, and they make no exporter.
    split <;> rename_i heq <;> cases heq
    · exact hsealed
    · split
      · exact hsealed
      · exact hsealed.of_eq (confined_runCallbacks _ _ _ _).exporters
    · exact hsealed
  refine hrun.of_eq ?_
  rw [h.perform_eq]
  exact exporters_performReady h.free

/-- A call after which some memory is kept answers the error that disables the action, leaves the
meshes as the mandatory function left them, and lets the kept fields go on by themselves. -/
theorem perform_of_kept (h : a.Lending c hooks fields loaded (.ok lent) lending)
    (numbered : (loaded.mesh a.mesh).Numbered) (unexported : loaded.Unexported a.mesh)
    (hrest : loaded.AtRest)
    (hfound : ∃ f ∈ lent, f.KeptIn (a.afterPerform hooks step lent lending).interpreter) :
    let ran := a.afterPerform hooks step lent lending
    ∃ g n, (ran.endLoans lent).1.find? (·.2.isRetained) = some (g, .retained n) ∧
      (a.perform step c).answer = .error (.refused (keptError a.module g n)) ∧
      (a.perform step c).action = { a with state := .failed (keptError a.module g n) } ∧
      (∀ k, (a.perform step c).state.mesh k = ran.mesh k) ∧
      ∀ f ∈ lent, ∀ id o, f.loan = .array id o → ran.interpreter.Keeps id →
        ∃ now block, (ran.mesh a.mesh).field f.id = .ok now ∧
          ran.interpreter.blocks.length ≤ block ∧
          (a.perform step c).state.StandsAlone id block now.values := by
  intro ran
  obtain ⟨f, hf, hkept⟩ := hfound
  obtain ⟨g, n, hfind⟩ := Coupling.exists_find?_retained hf hkept
  refine ⟨g, n, hfind, ?_⟩
  rcases hended : ran.endLoans lent with ⟨errors, ended⟩
  rw [hended] at hfind
  have hreturned := h.returned numbered unexported hrest step hended
  rw [perform_of_retained h hended hfind]
  refine ⟨rfl, rfl, fun k => ?_, fun f hf id o hloan hkeeps => ?_⟩
  · rw [Coupling.mesh_of_cells (Coupling.cells_release _)]
    exact (Coupling.mesh_setBorrow _ _ _ _).trans (hreturned.mesh_detachRetained k)
  · have hrefers : ended.interpreter.collect.Refers id :=
      Interpreter.refers_collect_iff.mpr (.inr (hreturned.givesBack.keeps_iff.mpr hkeeps))
    have hopen := Nat.ne_of_gt ((Interpreter.exports_pos_iff _ _).mpr hrefers.of_collect)
    obtain ⟨now, block, hnow, hblock, halone⟩ := hreturned.standsAlone hf hloan hopen
    exact ⟨now, block, hnow, hblock, halone.of_eq (Coupling.exporters_release _)
      (Coupling.blocks_release _)⟩

/-- Without the two other functions, or with others, the call would have been the same. -/
theorem perform_of_retained_of_ready (h : a.Lending c hooks fields loaded (.ok lent) lending)
    {f : LentField} {n : Nat}
    (hfind : ((a.afterPerform hooks step lent lending).endLoans lent).1.find? (·.2.isRetained) =
      some (f, .retained n))
    (vertex : Option (VertexId → List Float → Value → Value → Program Value))
    (post : Option (Program Unit)) :
    { a with state := .ready { hooks with vertex, post } }.perform step loaded =
      a.perform step c := by
  have hother : { a with state := .ready { hooks with vertex, post } }.Lending loaded
      { hooks with vertex, post } fields loaded (.ok lent) lending :=
    ⟨rfl, h.free, h.selected, h.built⟩
  rcases hended : (a.afterPerform hooks step lent lending).endLoans lent with ⟨errors, ended⟩
  rw [hended] at hfind
  rw [perform_of_retained h hended hfind]
  exact perform_of_retained hother hended hfind

theorem first_of_find? (h : a.Lending c hooks fields loaded (.ok lent) lending)
    (numbered : (loaded.mesh a.mesh).Numbered) (unexported : loaded.Unexported a.mesh)
    (hrest : loaded.AtRest) (hown : OwnWindows lent)
    (hfound : ∃ f ∈ lent, f.KeptIn (a.afterPerform hooks step lent lending).interpreter)
    {g : LentField} {n : Nat}
    (hfind : ((a.afterPerform hooks step lent lending).endLoans lent).1.find? (·.2.isRetained) =
      some (g, .retained n)) :
    ∃ before after, lent = before ++ g :: after ∧
      g.KeptIn (a.afterPerform hooks step lent lending).interpreter ∧
      ∀ f ∈ before, ¬ f.KeptIn (a.afterPerform hooks step lent lending).interpreter := by
  have hreturned := h.returned numbered unexported hrest step (Prod.eta _).symm
  have hframe : (a.afterPerform hooks step lent lending).interpreter.frame =
      lent.map (·.loan.object) := by
    rw [hreturned.confined.frame, hreturned.lends.frame, hreturned.atRest.frame, List.nil_append]
  obtain ⟨before, f, after, hsplit, hkept, hnot⟩ := exists_first hfound
  obtain ⟨m, hm⟩ := Coupling.find?_retained hframe hsplit hown hreturned.lends.apart hkept hnot
  cases hfind.symm.trans hm
  exact ⟨before, after, hsplit, hkept, hnot⟩

end ScriptedAction

namespace Usage

/-- The mandatory function does whatever it likes with the fields that it is lent. When the call is
over, no exporter stands for a field of the mesh, so user code that runs after it cannot change the
mesh, and a window that is alive then changes it at no later time either. If the function has kept
windows, the call answers that the first of the fields in question was kept, whatever else went
wrong, and this disables the action. The two other functions do not run. The meshes are as the
function left them, and each of the fields in question goes on by itself while its windows see a
copy of its values in a new block. -/
theorem kept_cut_off (disk : Disk) (searchPath : List String) (modules : List Loaded)
    (events : List UsageEvent) (step : Step) {i : Nat} {a : ScriptedAction} {hooks : Hooks}
    {fields : Selection} {loaded lending : Coupling} {lent : List LentField}
    (performs : ((start disk searchPath modules).run events).actions[i]? = some a)
    (lends : a.Lending ((start disk searchPath modules).run events).coupling hooks fields loaded
      (.ok lent) lending)
    (numbered : (loaded.mesh a.mesh).Numbered) (unexported : loaded.Unexported a.mesh) :
    let u := (start disk searchPath modules).run events
    let ran := a.afterPerform hooks step lent lending
    let performed := a.perform step u.coupling
    lent.map (fun f => (f.id, f.name)) = fields.placed.map (fun p => (p.field.id, p.field.name)) ∧
      performed.state.Sealed a.mesh ∧
      ((∃ f ∈ lent, f.KeptIn ran.interpreter) → ∃ g n,
        performed.answer =
          .error (.refused (.marshal a.module g.name (LoanError.retained n).message)) ∧
        performed.action =
          { a with state := .failed (.marshal a.module g.name (LoanError.retained n).message) } ∧
        (OwnWindows lent → ∃ before after, lent = before ++ g :: after ∧ g.KeptIn ran.interpreter ∧
          ∀ f ∈ before, ¬ f.KeptIn ran.interpreter) ∧
        (∀ vertex post, { a with state := .ready { hooks with vertex, post } }.perform step loaded =
          performed) ∧
        (∀ k, performed.state.mesh k = ran.mesh k) ∧
        ∀ f ∈ lent, ∀ id o, f.loan = .array id o → ran.interpreter.Keeps id →
          ∃ now block, (ran.mesh a.mesh).field f.id = .ok now ∧
            ran.interpreter.blocks.length ≤ block ∧
            performed.state.StandsAlone id block now.values) ∧
      (∀ c, performed.state.UserRun c → c.mesh a.mesh = performed.state.mesh a.mesh) ∧
      ∀ later (w : Window) x v c, w.exporter < performed.state.interpreter.exporters.length →
        let u' := (u.apply (.perform i step)).run later
        u'.coupling.writeItem (.window w) x v = .ok c →
          c.mesh a.mesh = u'.coupling.mesh a.mesh := by
  intro u ran performed
  obtain ⟨hpasses, haccounts⟩ := passes_run (accounts_start disk searchPath modules) events
  have hrest : loaded.AtRest := by
    obtain ⟨_, hloads⟩ := ScriptedAction.passes_ensureLoaded lends.ensured
    exact hloads.atRest (hpasses.atRest ⟨rfl, fun _ _ he => nomatch he⟩)
  have hsealed := ScriptedAction.sealed_perform lends numbered unexported hrest step
  have hcalled : (u.apply (.perform i step)).coupling = performed.state := by
    simp only [apply, performs, u, performed]
  refine ⟨?_, hsealed, ?_, fun c hrun => hsealed.mesh_eq hrun, ?_⟩
  · exact (lends.returned numbered unexported hrest step (Prod.eta _).symm).lends.map_eq
  · intro hfound
    obtain ⟨g, n, hfind, hanswer, haction, hmeshes, halone⟩ :=
      ScriptedAction.perform_of_kept lends numbered unexported hrest hfound
    refine ⟨g, n, hanswer, haction, fun hown => ?_, ?_, hmeshes, halone⟩
    · exact ScriptedAction.first_of_find? lends numbered unexported hrest hown hfound hfind
    · exact ScriptedAction.perform_of_retained_of_ready lends hfind
  · intro later w x v c hlt u' hwrite
    obtain ⟨-, hcalls⟩ := passes_run haccounts [.perform i step]
    have hcut : (u.apply (.perform i step)).coupling.Cut a.mesh w.exporter := by
      rw [hcalled]
      exact hsealed w.exporter hlt
    exact ((passes_run hcalls later).1.cut hcut).mesh_writeItem hwrite

/-- The functions of a module whose mandatory function stores what it was lent last, and fails. -/
def keeping : Hooks where
  perform _ objects :=
    match objects.getLast? with
    | some o => .ask (.store o) fun _ => .raise (.of "RuntimeError" "enough")
    | none => .done (.ok ())
  vertex := none
  post := none
  arrays := some "numpy"

def keepers : List Loaded :=
  [.fresh "act" none none ⟨.done (.ok ()), some keeping.perform, none, none, none⟩,
    .fresh "numpy" none none ⟨.done (.ok ()), none, none, none, some fun o => .query (.window o)⟩]

def dot : Mesh :=
  Edit.run (.plane "m")
    [.createVertex [0, 0], .createField "f" 1, .createField "g" 1, .allocate,
      .setValues ⟨0⟩ [1], .setValues ⟨1⟩ [2]]

def keeper : ScriptedAction := .new .regularPost "" "act" ⟨0⟩ (some ⟨0⟩) (some ⟨1⟩)

def keeperEvents : List UsageEvent :=
  [.meshes [⟨dot, .free⟩], .create .regularPost "" "act" ⟨0⟩ (some ⟨0⟩) (some ⟨1⟩)]

theorem kept_cut_off_keeper : ∃ loaded fields lent lending,
    ((start default [] keepers).run keeperEvents).actions[0]? = some keeper ∧
      keeper.Lending ((start default [] keepers).run keeperEvents).coupling keeping fields loaded
        (.ok lent) lending ∧
      (loaded.mesh ⟨0⟩).Numbered ∧ loaded.Unexported ⟨0⟩ ∧
      (∃ f ∈ lent, f.KeptIn (keeper.afterPerform keeping ⟨0, 0, 0, 0⟩ lent lending).interpreter) ∧
      let performed := keeper.perform ⟨0, 0, 0, 0⟩
        ((start default [] keepers).run keeperEvents).coupling
      performed.state.Sealed ⟨0⟩ ∧ ∃ e, performed.answer = .error (.refused e) ∧
        performed.action = { keeper with state := .failed e } := by
  obtain ⟨loaded, searchPath, hensured, hcells, hinterpreter⟩ :=
    ScriptedAction.ensureLoaded_of_isLoaded (a := keeper)
      (c := ((start default [] keepers).run keeperEvents).coupling) rfl
      (Splitting.splitOn_ofList ['a', 'c', 't'] '.') rfl rfl rfl
  obtain ⟨fields, lent, lending, hlending, hkept⟩ : ∃ fields lent lending,
      keeper.Lending ((start default [] keepers).run keeperEvents).coupling keeping fields loaded
        (.ok lent) lending ∧
      ∃ f ∈ lent, f.KeptIn (keeper.afterPerform keeping ⟨0, 0, 0, 0⟩ lent lending).interpreter := by
    obtain ⟨cells, log, notes, interpreter, lease⟩ := loaded
    cases hcells
    cases hinterpreter
    exact ⟨_, _, _, ⟨hensured, rfl, rfl, rfl⟩, _, .tail _ (.head _), 1, _, rfl, _, .head _, rfl⟩
  have hnumbered : (loaded.mesh ⟨0⟩).Numbered := by
    rw [Coupling.mesh, Coupling.cell?, hcells]
    intro i f hf
    rcases i with _ | _ | i
    · exact Option.some.inj hf ▸ rfl
    · exact Option.some.inj hf ▸ rfl
    · cases hf
  have hunexported : loaded.Unexported ⟨0⟩ := by
    intro id e position he
    rw [hinterpreter] at he
    cases he
  have hcut := kept_cut_off default [] keepers keeperEvents ⟨0, 0, 0, 0⟩ (i := 0) rfl hlending
    hnumbered hunexported
  obtain ⟨g, n, hanswer, haction, -⟩ := hcut.2.2.1 hkept
  exact ⟨loaded, fields, lent, lending, rfl, hlending, hnumbered, hunexported, hkept, hcut.2.1, _,
    hanswer, haction⟩

end Usage

end FieldMesh

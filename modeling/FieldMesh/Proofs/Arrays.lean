import FieldMesh.Proofs.Lending

/-! # Arrays that only wrap

A module that makes arrays is meant to wrap its argument: it may ask about it, make windows of it
and hold on to them, but it writes no entry and imports nothing. Lending fields to such a module
leaves all meshes alone, whether an array can be made or not.
-/

namespace FieldMesh

def Query.isPassive : Query → Bool
  | assign .. => false
  | load _ => false
  | _ => true

namespace Program

variable {α : Type}

/-- A program that neither writes entries nor imports modules, whatever it is answered. -/
def Passive : Program α → Prop
  | done _ => True
  | ask q next => q.isPassive = true ∧ ∀ r, (next r).Passive

end Program

theorem Loaded.code_of_asarray {l : Loaded} {asarray : Object → Program Object}
    (h : l.asarray = .ok asarray) : l.code.asarray = some asarray := by
  unfold Loaded.asarray at h
  split at h
  · exact nomatch h
  · split at h
    · rename_i hcode
      cases h
      exact hcode
    · exact nomatch h

namespace Coupling

variable {c c' c'' : Coupling} {k : MeshKey}

/-- The meshes are as they were, and every module was loaded before, with the same code. -/
structure Quiet (c c' : Coupling) : Prop where
  cells : c'.cells = c.cells
  modules : ∀ l' ∈ c'.interpreter.modules, ∃ l ∈ c.interpreter.modules,
    l'.name = l.name ∧ l'.code = l.code

namespace Quiet

theorem of_eq (hcells : c'.cells = c.cells)
    (hmodules : c'.interpreter.modules = c.interpreter.modules) : c.Quiet c' :=
  ⟨hcells, fun l hl => ⟨l, hmodules ▸ hl, rfl, rfl⟩⟩

theorem refl (c : Coupling) : c.Quiet c := of_eq rfl rfl

theorem trans (h₁ : c.Quiet c') (h₂ : c'.Quiet c'') : c.Quiet c'' where
  cells := h₂.cells.trans h₁.cells
  modules l hl := by
    obtain ⟨l', hl', hname', hcode'⟩ := h₂.modules l hl
    obtain ⟨l'', hl'', hname'', hcode''⟩ := h₁.modules l' hl'
    exact ⟨l'', hl'', hname'.trans hname'', hcode'.trans hcode''⟩

theorem of_result {α : Type} {r : α × Coupling} {x : α} (h : c.Quiet r.2) (heq : r = (x, c')) :
    c.Quiet c' := by
  rwa [heq] at h

theorem modify (c : Coupling) (name : String) {f : Loaded → Loaded}
    (same : ∀ l : Loaded, l.Same (f l)) :
    c.Quiet (c.setInterpreter (c.interpreter.modifyModule name f)) where
  cells := rfl
  modules l' hl' := by
    obtain ⟨l, hl, rfl⟩ := List.mem_map.mp hl'
    refine ⟨l, hl, ?_⟩
    split
    · exact ⟨(same l).name, (same l).code⟩
    · exact ⟨rfl, rfl⟩

theorem make {r : Except Exn (Object × Coupling)} (h : ∀ o c', r = .ok (o, c') → c.Quiet c') :
    c.Quiet (c.make r).2 := by
  cases r with
  | error e => exact refl c
  | ok p => exact h p.1 p.2 rfl

theorem windowOf {o o' : Object} (h : c.windowOf o = .ok (o', c')) : c.Quiet c' := by
  obtain ⟨_, _, _, rfl⟩ | ⟨_, _, _, _, _, _, rfl⟩ := windowOf_cases h
  · exact refl _
  · exact of_eq rfl rfl

theorem tailOf {o o' : Object} (h : c.tailOf o = .ok (o', c')) : c.Quiet c' := by
  obtain ⟨_, _, _, _, _, rfl⟩ | ⟨_, _, _, rfl⟩ := tailOf_cases h
  · exact refl _
  · exact of_eq rfl rfl

theorem answer (load : Importer) (module : String) (c : Coupling) {q : Query}
    (h : q.isPassive = true) : c.Quiet (c.answer load module q).2 := by
  cases q with
  | assign o x v => exact nomatch h
  | load name => exact nomatch h
  | append o v => cases o <;> exact of_eq rfl rfl
  | window o => exact make fun _ _ => windowOf
  | tail o => exact make fun _ _ => tailOf
  | count counter => exact modify c module fun _ => ⟨rfl, rfl, rfl⟩
  | keep o => exact modify c module fun _ => ⟨rfl, rfl, rfl⟩
  | forget => exact modify c module fun _ => ⟨rfl, rfl, rfl⟩
  | _ => exact of_eq rfl rfl

/-- By induction on the program. -/
theorem exec (load : Importer) (module : String) {α : Type} {p : Program α} (h : p.Passive)
    (c : Coupling) : c.Quiet (exec load module p c).2 := by
  induction p generalizing c with
  | done r => exact refl c
  | ask q next ih => exact (answer load module c h.1).trans (ih _ (h.2 _) _)

end Quiet

/-- The module that makes arrays, if there is one, only wraps. -/
def OnlyWraps (arrays : Option String) (c : Coupling) : Prop :=
  ∀ l ∈ c.interpreter.modules, arrays = some l.name → ∀ asarray, l.code.asarray = some asarray →
    ∀ o, (asarray o).Passive

theorem Quiet.onlyWraps (h : c.Quiet c') {arrays : Option String} (hwraps : c.OnlyWraps arrays) :
    c'.OnlyWraps arrays := by
  intro l' hl' harrays asarray hasarray
  obtain ⟨l, hl, hname, hcode⟩ := h.modules l' hl'
  exact hwraps l hl (hname ▸ harrays) asarray (hcode ▸ hasarray)

theorem OnlyWraps.quiet_wrap {arrays : Option String} (h : c.OnlyWraps arrays) (exporter : Nat) :
    c.Quiet (c.wrap arrays exporter).2 := by
  unfold wrap
  split
  · exact .make fun _ _ => .windowOf
  split
  · exact .refl c
  rename_i module _ l hl
  split
  · rename_i asarray hasarray
    have hname : l.name = module := by simpa using List.find?_some hl
    exact .exec _ _ (h l (List.mem_of_find?_eq_some hl) (congrArg some hname.symm) asarray
      (Loaded.code_of_asarray hasarray) _) c
  · exact .refl c

theorem OnlyWraps.quiet_lend {arrays : Option String} (h : c.OnlyWraps arrays) (p : Placed)
    (writable : Bool) : c.Quiet (c.lend arrays k p writable).2 := by
  unfold lend
  simp only
  split
  · exact .of_eq rfl rfl
  · have hnew : c.Quiet (c.setInterpreter (c.interpreter.newExporter (.lent k p.position)
        p.field.bytes p.field.components writable).2) := .of_eq rfl rfl
    have hwrap := hnew.trans ((hnew.onlyWraps h).quiet_wrap c.interpreter.exporters.length)
    split <;> rename_i heq
    · exact (hwrap.of_result heq).trans (.of_eq rfl rfl)
    · exact (hwrap.of_result heq).trans (.of_eq rfl rfl)

end Coupling

namespace ScriptedAction

variable {hooks : Hooks} {c : Coupling}

theorem quiet_lendOne (h : c.OnlyWraps hooks.arrays) (a : ScriptedAction) (writable : Bool)
    (p : Option Placed) :
    c.Quiet (a.lendOne hooks writable p c).2 := by
  cases p with
  | none => exact .refl c
  | some p =>
    have hlend := h.quiet_lend (k := a.mesh) p writable
    simp only [lendOne]
    split <;> rename_i heq <;> exact hlend.of_result heq

theorem cells_lendAll (h : c.OnlyWraps hooks.arrays) (a : ScriptedAction) (fields : Selection) :
    (a.lendAll hooks fields c).2.cells = c.cells := by
  have hsource := quiet_lendOne h a false fields.source
  rw [lendAll_eq]
  split <;> rename_i heq <;> have hlent := hsource.of_result heq
  · exact hlent.cells
  · have htarget := hlent.trans (quiet_lendOne (hlent.onlyWraps h) a true fields.target)
    split <;> rename_i heq <;> have hlent' := htarget.of_result heq
    · exact hlent'.cells
    · exact (Coupling.givesBack_dropLoans _ _).cells.trans hlent'.cells

end ScriptedAction

end FieldMesh

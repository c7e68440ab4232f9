import FieldMesh.Action.Scripted
import FieldMesh.Proofs.Loans

/-! # Fields on loan

Lending a field opens an exporter for it if the field holds values, and user code may run that
makes an array of it. If all fields of an action can be lent, the exporters that were opened are
those of the loans. If one cannot, nothing stays on loan: the exporters that were opened grant
nothing more, but they still stand for their fields.
-/

namespace FieldMesh

namespace Coupling

variable {c c' c'' : Coupling} {k : MeshKey} {placed placed' : List Placed}
  {lent lent' : List LentField}

theorem userRun_wrap (c : Coupling) (arrays : Option String) (exporter : Nat) :
    c.UserRun (c.wrap arrays exporter).2 := by
  unfold wrap
  split
  · exact userRun_make fun _ _ => userRun_windowOf
  · split
    · exact .refl c
    · split
      · exact userRun_run _ _ c
      · exact .refl c

/-- Exporters have been opened for some fields of a mesh, and user code has run. -/
structure Opens (k : MeshKey) (placed : List Placed) (c c' : Coupling) : Prop
    extends InSession c c' where
  kept : ∀ (id : Nat) (e : Exporter), c.interpreter.exporters[id]? = some e →
    c'.interpreter.exporters[id]? = some e
  opened : ∀ (id : Nat) (e : Exporter), c.interpreter.exporters.length ≤ id →
    c'.interpreter.exporters[id]? = some e → ∃ p ∈ placed, e.memory = .lent k p.position
  fieldIds : ∀ k, (c'.mesh k).fields.map (·.id) = (c.mesh k).fields.map (·.id)

namespace Opens

theorem refl (c : Coupling) : Opens k [] c c where
  toInSession := .refl c
  kept _ _ h := h
  opened _ _ hge he := absurd (List.getElem?_eq_some_iff.mp he).1 (Nat.not_lt.mpr hge)
  fieldIds _ := rfl

theorem trans (h₁ : Opens k placed c c') (h₂ : Opens k placed' c' c'') :
    Opens k (placed ++ placed') c c'' where
  toInSession := h₁.toInSession.trans h₂.toInSession
  kept id e he := h₂.kept id e (h₁.kept id e he)
  opened id e hge he := by
    rcases Nat.lt_or_ge id c'.interpreter.exporters.length with hlt | hnew
    · have hold := List.getElem?_eq_getElem hlt
      rw [h₂.kept id _ hold] at he
      cases he
      obtain ⟨p, hp, hmemory⟩ := h₁.opened id _ hge hold
      exact ⟨p, List.mem_append_left _ hp, hmemory⟩
    · obtain ⟨p, hp, hmemory⟩ := h₂.opened id e hnew he
      exact ⟨p, List.mem_append_right _ hp, hmemory⟩
  fieldIds k := (h₂.fieldIds k).trans (h₁.fieldIds k)

theorem mono (h : Opens k placed c c') (hsubset : placed ⊆ placed') : Opens k placed' c c' where
  toInSession := h.toInSession
  kept := h.kept
  opened id e hge he := by
    obtain ⟨p, hp, hmemory⟩ := h.opened id e hge he
    exact ⟨p, hsubset hp, hmemory⟩
  fieldIds := h.fieldIds

theorem length_le (h : Opens k placed c c') :
    c.interpreter.exporters.length ≤ c'.interpreter.exporters.length := by
  by_contra hlt
  have hlast := h.kept _ _ (List.getElem?_eq_getElem (Nat.not_le.mp hlt))
  exact absurd (List.getElem?_eq_some_iff.mp hlast).1 (Nat.lt_irrefl _)

theorem of_append {p : Placed} {e : Exporter} (h : c.InSession c')
    (hids : ∀ k, (c'.mesh k).fields.map (·.id) = (c.mesh k).fields.map (·.id))
    (hexporters : c'.interpreter.exporters = c.interpreter.exporters ++ [e])
    (hmemory : e.memory = .lent k p.position) : Opens k [p] c c' where
  toInSession := h
  kept id e' he := by
    rw [hexporters, List.getElem?_append_left (List.getElem?_eq_some_iff.mp he).1, he]
  opened id e' hge he := by
    rw [hexporters, List.getElem?_append_right hge, List.getElem?_singleton] at he
    split at he
    · cases he
      exact ⟨p, List.mem_singleton_self p, hmemory⟩
    · exact nomatch he
  fieldIds := hids

theorem givesBack {loans : List Loan} (h : Opens k placed c c') (hgives : GivesBack loans c' c'')
    (hloans : ∀ loan ∈ loans, ∀ id, loan.isOf id = true → c.interpreter.exporters.length ≤ id) :
    Opens k placed c c'' where
  toInSession := h.toInSession.trans hgives.inSession
  kept id e he := by
    have hold : loans.any (·.isOf id) = false := by
      rw [List.any_eq_false]
      intro loan hloan hof
      exact absurd (List.getElem?_eq_some_iff.mp he).1 (Nat.not_lt.mpr (hloans loan hloan id hof))
    rw [hgives.exporters, Loan.getElem?_revokeAll, h.kept id e he, hold]
    simp
  opened id e hge he := by
    rw [hgives.exporters, Loan.getElem?_revokeAll] at he
    obtain ⟨e', he', rfl⟩ := Option.map_eq_some_iff.mp he
    exact h.opened id e' hge he'
  fieldIds k := by rw [mesh, cell?, hgives.cells]; exact h.fieldIds k

end Opens

/-- A field is on loan: an array of it is one of an exporter that was opened for it. -/
structure Backs (k : MeshKey) (first : Nat) (s : Interpreter) (p : Placed) (f : LentField) :
    Prop where
  id : f.id = p.field.id
  name : f.name = p.field.name
  memory : ∀ id o, f.loan = .array id o →
    first ≤ id ∧ ∃ e, s.exporters[id]? = some e ∧ e.memory = .lent k p.position

/-- Fields have been lent: the module's objects are arguments, and the exporters that were opened
are those of the loans, another one for each. -/
structure Lends (k : MeshKey) (placed : List Placed) (lent : List LentField) (c c' : Coupling) :
    Prop extends Opens k placed c c' where
  frame : c'.interpreter.frame = c.interpreter.frame ++ lent.map (·.loan.object)
  backed : List.Forall₂ (Backs k c.interpreter.exporters.length c'.interpreter) placed lent
  owned : ∀ id, c.interpreter.exporters.length ≤ id → id < c'.interpreter.exporters.length →
    ∃ f ∈ lent, ∃ o, f.loan = .array id o
  apart : lent.Pairwise fun f g => ∀ id, f.loan.isOf id = true → g.loan.isOf id = false

namespace Lends

theorem nil (c : Coupling) : Lends k [] [] c c :=
  ⟨.refl c, (List.append_nil _).symm, .nil, fun _ hge hlt => absurd hlt (Nat.not_lt.mpr hge), .nil⟩

theorem exists_backs (h : Lends k placed lent c c') {f : LentField} (hf : f ∈ lent) :
    ∃ p ∈ placed, Backs k c.interpreter.exporters.length c'.interpreter p f := by
  obtain ⟨-, -, hbacked, -, -⟩ := h
  induction hbacked with
  | nil => exact nomatch hf
  | cons hback _ ih =>
    rcases List.mem_cons.mp hf with rfl | hf
    · exact ⟨_, List.mem_cons_self, hback⟩
    · obtain ⟨p, hp, hback⟩ := ih hf
      exact ⟨p, List.mem_cons_of_mem _ hp, hback⟩

theorem map_eq (h : Lends k placed lent c c') :
    lent.map (fun f => (f.id, f.name)) = placed.map fun p => (p.field.id, p.field.name) := by
  obtain ⟨-, -, hbacked, -, -⟩ := h
  induction hbacked with
  | nil => rfl
  | cons hback _ ih => rw [List.map_cons, List.map_cons, ih, hback.id, hback.name]

theorem le_of_isOf (h : Lends k placed lent c c') {loan : Loan} (hloan : loan ∈ lent.map (·.loan))
    {id : Nat} (hof : loan.isOf id = true) : c.interpreter.exporters.length ≤ id := by
  obtain ⟨f, hf, rfl⟩ := List.mem_map.mp hloan
  obtain ⟨p, -, hback⟩ := h.exists_backs hf
  obtain ⟨o, ho⟩ := Loan.isOf_iff.mp hof
  exact (hback.memory id o ho).1

theorem append (h₁ : Lends k placed lent c c') (h₂ : Lends k placed' lent' c' c'') :
    Lends k (placed ++ placed') (lent ++ lent') c c'' where
  toOpens := h₁.toOpens.trans h₂.toOpens
  frame := by rw [h₂.frame, h₁.frame, List.append_assoc, List.map_append]
  backed := by
    apply List.rel_append
    · apply h₁.backed.imp
      intro p f hf
      refine ⟨hf.id, hf.name, fun id o hloan => ?_⟩
      obtain ⟨hid, e, he, hmemory⟩ := hf.memory id o hloan
      exact ⟨hid, e, h₂.kept id e he, hmemory⟩
    · apply h₂.backed.imp
      intro p f hf
      refine ⟨hf.id, hf.name, fun id o hloan => ?_⟩
      obtain ⟨hid, he⟩ := hf.memory id o hloan
      exact ⟨Nat.le_trans h₁.length_le hid, he⟩
  owned id hge hlt := by
    rcases Nat.lt_or_ge id c'.interpreter.exporters.length with hold | hnew
    · obtain ⟨f, hf, hloan⟩ := h₁.owned id hge hold
      exact ⟨f, List.mem_append_left _ hf, hloan⟩
    · obtain ⟨f, hf, hloan⟩ := h₂.owned id hnew hlt
      exact ⟨f, List.mem_append_right _ hf, hloan⟩
  apart := by
    refine List.pairwise_append.mpr ⟨h₁.apart, h₂.apart, ?_⟩
    intro f hf g hg id hof
    obtain ⟨p, -, hback⟩ := h₁.exists_backs hf
    obtain ⟨o, ho⟩ := Loan.isOf_iff.mp hof
    obtain ⟨-, e, he, -⟩ := hback.memory id o ho
    have hold : id < c'.interpreter.exporters.length := (List.getElem?_eq_some_iff.mp he).1
    refine Bool.eq_false_iff.mpr fun hshared => ?_
    have hnew := h₂.le_of_isOf (List.mem_map_of_mem hg) hshared
    exact absurd hold (Nat.not_lt.mpr hnew)

/-- Once the loans have been given back, the exporters that were opened grant nothing more. -/
theorem revoked_of_revokeAll (h : Lends k placed lent c c') {es : List Exporter} {id : Nat}
    {e : Exporter} (hge : c.interpreter.exporters.length ≤ id)
    (hlt : id < c'.interpreter.exporters.length)
    (he : (Loan.revokeAll (lent.map (·.loan)) es)[id]? = some e) : e.revoked = true := by
  obtain ⟨f, hf, hloan⟩ := h.owned id hge hlt
  have hany : (lent.map (·.loan)).any (·.isOf id) = true :=
    List.any_eq_true.mpr ⟨f.loan, List.mem_map_of_mem hf, Loan.isOf_iff.mpr hloan⟩
  rw [Loan.getElem?_revokeAll, hany] at he
  obtain ⟨e', -, rfl⟩ := Option.map_eq_some_iff.mp he
  exact Bool.or_true _

end Lends

def exporterOf (k : MeshKey) (p : Placed) (writable : Bool) : Exporter :=
  ⟨.lent k p.position, p.field.bytes, .ofBytes p.field.bytes p.field.components, writable, false⟩

theorem confined_wrap {arrays : Option String} {p : Placed} {writable : Bool}
    {made : Except Exn Object}
    (h : (c.setInterpreter (c.interpreter.newExporter (.lent k p.position) p.field.bytes
        p.field.components writable).2).wrap arrays c.interpreter.exporters.length = (made, c')) :
    c.InSession c' ∧ (∀ k, (c'.mesh k).fields.map (·.id) = (c.mesh k).fields.map (·.id)) ∧
      c'.interpreter.frame = c.interpreter.frame ∧
      c'.interpreter.exporters = c.interpreter.exporters ++ [exporterOf k p writable] := by
  have hrun := (userRun_wrap _ arrays c.interpreter.exporters.length).confined.of_eq h
  exact ⟨(InSession.setInterpreter c).trans hrun.toInSession, hrun.fieldIds, hrun.frame,
    hrun.exporters⟩

theorem lends_of_lend {arrays : Option String} {p : Placed} {writable : Bool} {f : LentField}
    (h : c.lend arrays k p writable = (.ok f, c')) : Lends k [p] [f] c c' := by
  simp only [lend] at h
  split at h
  · -- an empty field is given as a list, and no exporter is opened
    cases h
    have hnone := (Opens.refl (k := k) c).mono (List.nil_subset [p])
    exact ⟨⟨(InSession.emit c _ _).trans (.setInterpreter _), hnone.kept, hnone.opened,
        fun _ => rfl⟩, rfl, .cons ⟨rfl, rfl, fun _ _ h => nomatch h⟩ .nil,
      fun id hge hlt => absurd hlt (Nat.not_lt.mpr hge), List.pairwise_singleton _ _⟩
  · split at h
    · rename_i o done hwrap
      obtain ⟨hsession, hids, hframe, hexporters⟩ := confined_wrap hwrap
      cases h
      refine ⟨.of_append (hsession.trans (.setInterpreter _)) hids hexporters rfl,
        congrArg (· ++ [o]) hframe, .cons ⟨rfl, rfl, ?_⟩ .nil, ?_, List.pairwise_singleton _ _⟩
      · intro id o' hloan
        cases hloan
        refine ⟨Nat.le_refl _, exporterOf k p writable, ?_, rfl⟩
        change done.interpreter.exporters[_]? = _
        rw [hexporters]
        exact List.getElem?_concat_length
      · intro id hge hlt
        change id < done.interpreter.exporters.length at hlt
        rw [hexporters, List.length_append, List.length_singleton] at hlt
        have hid := Nat.le_antisymm (Nat.le_of_lt_succ hlt) hge
        exact ⟨_, List.mem_singleton_self _, o, by rw [hid]; rfl⟩
    · exact nomatch h

theorem opens_of_lend_error {arrays : Option String} {p : Placed} {writable : Bool}
    {reason : String} (h : c.lend arrays k p writable = (.error reason, c')) :
    Opens k [p] c c' ∧ c'.interpreter.frame = c.interpreter.frame ∧
      c'.interpreter.exporters =
        c.interpreter.exporters ++ [{ exporterOf k p writable with revoked := true }] := by
  simp only [lend] at h
  split at h
  · exact nomatch h
  · split at h
    · exact nomatch h
    · rename_i failed hwrap
      obtain ⟨hsession, hids, hframe, hexporters⟩ := confined_wrap hwrap
      cases h
      have hrevoked : (failed.interpreter.revoke c.interpreter.exporters.length).exporters =
          c.interpreter.exporters ++ [{ exporterOf k p writable with revoked := true }] := by
        simp [Interpreter.revoke, hexporters, List.modify_eq_take_drop]
      exact ⟨.of_append (hsession.trans (.setInterpreter _)) hids hrevoked rfl, hframe, hrevoked⟩

end Coupling

/-- The fields of a selection, the source first. -/
def Selection.placed (s : Selection) : List Placed := s.source.toList ++ s.target.toList

namespace ScriptedAction

variable {a : ScriptedAction} {hooks : Hooks} {fields : Selection} {c c' : Coupling}

def lendOne (a : ScriptedAction) (hooks : Hooks) (writable : Bool) (p : Option Placed)
    (c : Coupling) : Except ActionError (List LentField) × Coupling :=
  match p with
  | none => (.ok [], c)
  | some p =>
    match c.lend hooks.arrays a.mesh p writable with
    | (.ok lent, c) => (.ok [lent], c)
    | (.error reason, c) => (.error (.marshal a.module p.field.name reason), c)

theorem lendAll_eq (a : ScriptedAction) (hooks : Hooks) (fields : Selection) (c : Coupling) :
    a.lendAll hooks fields c =
      match a.lendOne hooks false fields.source c with
      | (.error e, c) => (.error e, c)
      | (.ok sources, c) =>
        match a.lendOne hooks true fields.target c with
        | (.ok targets, c) => (.ok (sources ++ targets), c)
        | (.error e, c) => (.error e, sources.foldl (fun c lent => c.dropLoan lent.loan) c) := rfl

/-- Lending one field, if there is one, succeeds or leaves an exporter that grants nothing. -/
theorem lendOne_cases (a : ScriptedAction) (hooks : Hooks) (writable : Bool) (p : Option Placed)
    (c : Coupling) :
    (∃ lent c', a.lendOne hooks writable p c = (.ok lent, c') ∧
      Coupling.Lends a.mesh p.toList lent c c') ∨
    ∃ f reason c', p = some f ∧
      a.lendOne hooks writable p c = (.error (.marshal a.module f.field.name reason), c') ∧
      Coupling.Opens a.mesh [f] c c' ∧ c'.interpreter.frame = c.interpreter.frame ∧
      c'.interpreter.exporters = c.interpreter.exporters ++
        [{ Coupling.exporterOf a.mesh f writable with revoked := true }] := by
  cases p with
  | none => exact .inl ⟨[], c, rfl, .nil c⟩
  | some f =>
    simp only [lendOne]
    split
    · rename_i lent lending hlend
      exact .inl ⟨[lent], lending, rfl, Coupling.lends_of_lend hlend⟩
    · rename_i reason failed hlend
      exact .inr ⟨f, reason, failed, rfl, rfl, Coupling.opens_of_lend_error hlend⟩

/-- Nothing is on loan although some fields should be: the exporters that were opened for them
grant nothing more, and still stand for the fields. -/
structure Unlent (a : ScriptedAction) (chosen : Selection) (e : ActionError) (c c' : Coupling) :
    Prop extends Coupling.Opens a.mesh chosen.placed c c' where
  frame : c.interpreter.frame = [] → c'.interpreter.frame = []
  revoked : ∀ id exporter, c.interpreter.exporters.length ≤ id →
    c'.interpreter.exporters[id]? = some exporter → exporter.revoked = true
  marshal : ∃ p ∈ chosen.placed, ∃ reason, e = .marshal a.module p.field.name reason

/-- Either all fields of an action are lent, or none. -/
theorem lendAll_cases (a : ScriptedAction) (hooks : Hooks) (fields : Selection) (c : Coupling) :
    (∃ lent c', a.lendAll hooks fields c = (.ok lent, c') ∧
      Coupling.Lends a.mesh fields.placed lent c c') ∨
    ∃ e c', a.lendAll hooks fields c = (.error e, c') ∧ a.Unlent fields e c c' := by
  obtain ⟨sources, lending, hsource, hlends⟩ |
      ⟨f, reason, failed, hf, hsource, hopens, hframe, hnew⟩ :=
    a.lendOne_cases hooks false fields.source c
  · obtain ⟨targets, lending', htarget, hlends'⟩ |
      ⟨f, reason, failed, hf, htarget, hopens, hframe, hnew⟩ :=
      a.lendOne_cases hooks true fields.target lending
    · exact .inl ⟨sources ++ targets, lending', by simp only [lendAll_eq, hsource, htarget],
        hlends.append hlends'⟩
    · -- the source that was lent before is given back
      have hplaced : fields.source.toList ++ [f] = fields.placed := by
        rw [Selection.placed, hf, Option.toList_some]
      have hgives := Coupling.givesBack_dropLoans sources failed
      have hopened := (hlends.toOpens.trans hopens).givesBack hgives
        fun loan hloan id hof => hlends.le_of_isOf hloan hof
      refine .inr ⟨_, _, by simp only [lendAll_eq, hsource, htarget], hplaced ▸ hopened, ?_, ?_,
        f, ?_, reason, rfl⟩
      · intro hnone
        exact hgives.frame_eq_nil (by rw [hframe, hlends.frame, hnone]; simp)
      · intro id e hge he
        rw [hgives.exporters, hnew] at he
        rcases Nat.lt_or_ge id lending.interpreter.exporters.length with hlt | hlast
        · exact hlends.revoked_of_revokeAll hge hlt he
        · rw [Loan.getElem?_revokeAll] at he
          obtain ⟨e', he', rfl⟩ := Option.map_eq_some_iff.mp he
          rw [List.getElem?_append_right hlast, List.getElem?_singleton] at he'
          split at he'
          · cases he'
            rfl
          · exact nomatch he'
      · exact hplaced ▸ List.mem_append_right _ (List.mem_singleton_self f)
  · have hsubset : [f] ⊆ fields.placed := by
      rw [Selection.placed, hf, Option.toList_some]
      exact List.subset_append_left _ _
    refine .inr ⟨_, failed, by simp only [lendAll_eq, hsource], hopens.mono hsubset, ?_, ?_,
      f, hsubset (List.mem_singleton_self f), reason, rfl⟩
    · intro hnone
      rw [hframe, hnone]
    · intro id e hge he
      rw [hnew, List.getElem?_append_right hge, List.getElem?_singleton] at he
      split at he
      · cases he
        rfl
      · exact nomatch he

end ScriptedAction

end FieldMesh

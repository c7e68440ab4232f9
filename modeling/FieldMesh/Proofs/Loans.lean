import FieldMesh.Action.Lending
import FieldMesh.Proofs.Programs

/-! # Ending loans

A loan comes back retained exactly if, once the argument is let go and garbage is collected, some
window of its exporter is still alive. Neither lending nor ending loans changes who uses the
interpreter or how the meshes are in use.
-/

namespace FieldMesh

namespace Interpreter

def Refers (s : Interpreter) (exporter : Nat) : Prop :=
  ∃ w : Window, .window w ∈ s.live ∧ w.exporter = exporter

theorem exports_pos_iff (s : Interpreter) (exporter : Nat) :
    0 < s.exports exporter ↔ s.Refers exporter := by
  unfold exports openHolds
  rw [List.length_pos_iff_exists_mem]
  simp only [List.mem_eraseDups, List.mem_map, List.mem_filter, List.mem_filterMap, beq_iff_eq]
  constructor
  · rintro ⟨_, w, ⟨⟨o, ho, hw⟩, hexporter⟩, rfl⟩
    cases o with
    | window w' =>
      cases hw
      exact ⟨w, ho, hexporter⟩
    | list ref => exact nomatch hw
    | exporter id => exact nomatch hw
  · rintro ⟨w, hw, hexporter⟩
    exact ⟨w.hold, w, ⟨⟨.window w, hw, rfl⟩, hexporter⟩, rfl⟩

theorem Refers.of_collect {s : Interpreter} {exporter : Nat} (h : s.collect.Refers exporter) :
    s.Refers exporter := by
  obtain ⟨w, hw, hexporter⟩ := h
  refine ⟨w, ?_, hexporter⟩
  simp only [live, collect, List.mem_append, List.not_mem_nil, or_false] at hw ⊢
  tauto

/-- Once garbage has been collected where it might matter, exports are open exactly if something
else keeps them so. -/
theorem exports_collected_pos_iff (s : Interpreter) (exporter : Nat) :
    0 < (if 0 < s.exports exporter then s.collect else s).exports exporter ↔
      s.collect.Refers exporter := by
  split
  · exact exports_pos_iff _ _
  · rename_i hclosed
    exact iff_of_false hclosed fun h => hclosed ((exports_pos_iff _ _).mpr h.of_collect)

end Interpreter

namespace Loan

def isOf : Loan → Nat → Bool
  | array exporter _, id => exporter == id
  | copy .., _ => false

theorem isOf_iff {loan : Loan} {id : Nat} : loan.isOf id = true ↔ ∃ o, loan = .array id o := by
  cases loan with
  | array exporter o => simp [isOf]
  | copy ref writable components => simp [isOf]

def revoke : Loan → List Exporter → List Exporter
  | array exporter _, es => es.modify exporter fun e => { e with revoked := true }
  | copy .., es => es

def revokeAll (loans : List Loan) (es : List Exporter) : List Exporter :=
  loans.foldl (fun es loan => loan.revoke es) es

theorem getElem?_revoke (loan : Loan) (es : List Exporter) (id : Nat) :
    (loan.revoke es)[id]? =
      es[id]?.map fun e => { e with revoked := e.revoked || loan.isOf id } := by
  cases loan with
  | array exporter o =>
    rw [revoke, List.getElem?_modify]
    by_cases h : exporter = id
    · cases es[id]? <;> simp [isOf, h]
    · have hbeq : (exporter == id) = false := beq_false_of_ne h
      cases es[id]? <;> simp [isOf, h, hbeq]
  | copy ref writable components => cases h : es[id]? <;> simp [revoke, isOf, h]

theorem getElem?_revokeAll (loans : List Loan) (es : List Exporter) (id : Nat) :
    (revokeAll loans es)[id]? =
      es[id]?.map fun e => { e with revoked := e.revoked || loans.any (·.isOf id) } := by
  induction loans generalizing es with
  | nil => cases h : es[id]? <;> simp [revokeAll, h]
  | cons loan loans ih =>
    rw [revokeAll, List.foldl_cons, ← revokeAll, ih, getElem?_revoke, Option.map_map]
    simp [Function.comp_def, Bool.or_assoc]

end Loan

namespace Coupling

variable {c : Coupling}

/-- When a loan is taken back, the module still refers to its memory from something other than
garbage. -/
def Retains (c : Coupling) (loan : Loan) : Prop :=
  ∃ exporter o, loan = .array exporter o ∧ (c.letGo o).interpreter.collect.Refers exporter

theorem takeBack_ne_retained (items : List Value) (components n : Nat) :
    takeBack items components ≠ .error (.retained n) := by
  intro h
  simp only [takeBack, bind, Except.bind, pure, Except.pure] at h
  by_cases hone : components = 1
  · rw [if_pos hone] at h
    cases hnumbers : items.mapM Value.toFloat with
    | error e => simp [hnumbers] at h
    | ok numbers =>
      simp only [hnumbers] at h
      split at h <;> exact nomatch h
  · rw [if_neg hone] at h
    cases hrows : items.mapM Value.toFloats with
    | error e => simp [hrows] at h
    | ok rows =>
      simp only [hrows] at h
      split at h
      · exact nomatch h
      · split at h <;> exact nomatch h

theorem close_pos_iff (c : Coupling) (exporter : Nat) :
    0 < (c.close exporter).1 ↔ c.interpreter.collect.Refers exporter := by
  have hrevoked : (c.interpreter.revoke exporter).collect.Refers exporter ↔
      c.interpreter.collect.Refers exporter := by
    simp only [Interpreter.Refers, Interpreter.live, Interpreter.collect, Interpreter.revoke]
  rw [← hrevoked, ← Interpreter.exports_collected_pos_iff]
  simp only [close]

theorem endLoan_retained_iff {loan : Loan} :
    (∃ n, (c.endLoan loan).1 = .error (.retained n)) ↔ c.Retains loan := by
  cases loan with
  | array exporter o =>
    have hleft : (∃ n, (c.endLoan (.array exporter o)).1 = .error (.retained n)) ↔
        0 < ((c.letGo o).close exporter).1 := by
      simp only [endLoan, Loan.object]
      by_cases hzero : ((c.letGo o).close exporter).1 = 0
      · simp [hzero]
      · simp [hzero, Nat.pos_iff_ne_zero]
    rw [hleft, close_pos_iff]
    constructor
    · intro h
      exact ⟨exporter, o, rfl, h⟩
    · rintro ⟨_, _, heq, h⟩
      cases heq
      exact h
  | copy ref writable components =>
    refine iff_of_false ?_ ?_
    · rintro ⟨n, h⟩
      simp only [endLoan] at h
      split at h
      · exact takeBack_ne_retained _ _ n h
      · exact nomatch h
    · rintro ⟨_, _, heq, _⟩
      exact nomatch heq

theorem exports_close (c : Coupling) (exporter : Nat) :
    (c.close exporter).2.interpreter.exports exporter = (c.close exporter).1 := by
  simp only [close, setInterpreter]

theorem endLoan_of_open {exporter : Nat} {o : Object}
    (h : (c.endLoan (.array exporter o)).2.interpreter.exports exporter ≠ 0) :
    (c.endLoan (.array exporter o)).1 =
      .error (.retained ((c.endLoan (.array exporter o)).2.interpreter.exports exporter)) := by
  simp only [endLoan, exports_close] at h ⊢
  exact if_neg h

theorem errors_endLoans_cons (c : Coupling) (f : LentField) (fs : List LentField) :
    (c.endLoans (f :: fs)).1 =
      (match (c.endLoan f.loan).1 with
        | .ok () => []
        | .error e => [(f, e)]) ++ ((c.endLoan f.loan).2.endLoans fs).1 := by
  simp only [endLoans]
  cases (c.endLoan f.loan).1 <;> rfl

theorem state_endLoans_cons (c : Coupling) (f : LentField) (fs : List LentField) :
    (c.endLoans (f :: fs)).2 = ((c.endLoan f.loan).2.endLoans fs).2 := by
  simp only [endLoans]
  split <;> rfl

theorem state_endLoans_append (c : Coupling) (fs gs : List LentField) :
    (c.endLoans (fs ++ gs)).2 = ((c.endLoans fs).2.endLoans gs).2 := by
  induction fs generalizing c with
  | nil => rfl
  | cons f fs ih => rw [List.cons_append, state_endLoans_cons, state_endLoans_cons, ih]

theorem errors_endLoans_append (c : Coupling) (fs gs : List LentField) :
    (c.endLoans (fs ++ gs)).1 = (c.endLoans fs).1 ++ ((c.endLoans fs).2.endLoans gs).1 := by
  induction fs generalizing c with
  | nil => rfl
  | cons f fs ih =>
    rw [List.cons_append, errors_endLoans_cons, errors_endLoans_cons, state_endLoans_cons, ih,
      List.append_assoc]

/-- Some loan is found retained when the loans before it have been ended. The induction is on the
loans. -/
theorem exists_retained_iff (lent : List LentField) (c : Coupling) :
    (∃ e ∈ (c.endLoans lent).1, e.2.isRetained = true) ↔
      ∃ before f after, lent = before ++ f :: after ∧ (c.endLoans before).2.Retains f.loan := by
  induction lent generalizing c with
  | nil => simp [endLoans]
  | cons f fs ih =>
    have hhead : (∃ e ∈ (match (c.endLoan f.loan).1 with
        | .ok () => []
        | .error e => [(f, e)]), e.2.isRetained = true) ↔ c.Retains f.loan := by
      rw [← endLoan_retained_iff]
      cases (c.endLoan f.loan).1 with
      | ok u => simp
      | error e => cases e <;> simp [LoanError.isRetained]
    rw [errors_endLoans_cons]
    simp only [List.mem_append, or_and_right, exists_or]
    rw [hhead, ih]
    constructor
    · rintro (h | ⟨before, g, after, rfl, h⟩)
      · exact ⟨[], f, fs, rfl, h⟩
      · exact ⟨f :: before, g, after, rfl, by rwa [state_endLoans_cons]⟩
    · rintro ⟨before, g, after, hsplit, h⟩
      cases before with
      | nil =>
        cases hsplit
        exact .inl h
      | cons f' before =>
        cases hsplit
        rw [state_endLoans_cons] at h
        exact .inr ⟨before, g, after, rfl, h⟩

/-! ## What giving back loans does -/

/-- Loans have been given back: their arguments are let go, their exporters grant nothing more, and
garbage may have been collected. -/
structure GivesBack (loans : List Loan) (c c' : Coupling) : Prop where
  cells : c'.cells = c.cells
  lease : c'.lease = c.lease
  frame : c'.interpreter.frame =
    loans.foldl (fun frame loan => frame.erase loan.object) c.interpreter.frame
  exporters : c'.interpreter.exporters = Loan.revokeAll loans c.interpreter.exporters
  garbage : c'.interpreter.garbage = c.interpreter.garbage ∨ c'.interpreter.garbage = []
  stored : c'.interpreter.stored = c.interpreter.stored
  modules : c'.interpreter.modules = c.interpreter.modules
  blocks : c'.interpreter.blocks = c.interpreter.blocks
  searchPath : c'.interpreter.searchPath = c.interpreter.searchPath

namespace GivesBack

variable {c' c'' : Coupling} {loan : Loan} {loans : List Loan}

theorem nil (c : Coupling) : GivesBack [] c c := ⟨rfl, rfl, rfl, rfl, .inl rfl, rfl, rfl, rfl, rfl⟩

theorem cons (h₁ : GivesBack [loan] c c') (h₂ : GivesBack loans c' c'') :
    GivesBack (loan :: loans) c c'' where
  cells := h₂.cells.trans h₁.cells
  lease := h₂.lease.trans h₁.lease
  frame := by rw [h₂.frame, h₁.frame]; rfl
  exporters := by rw [h₂.exporters, h₁.exporters]; rfl
  garbage := by
    rcases h₂.garbage with h | h
    · rw [h]
      exact h₁.garbage
    · exact .inr h
  stored := h₂.stored.trans h₁.stored
  modules := h₂.modules.trans h₁.modules
  blocks := h₂.blocks.trans h₁.blocks
  searchPath := h₂.searchPath.trans h₁.searchPath

theorem inSession (h : GivesBack loans c c') : c.InSession c' where
  lease := h.lease
  borrow k := by rw [borrow, borrow, cell?, cell?, h.cells]
  searchPath := h.searchPath
  loaded name hname := by rwa [Interpreter.isLoaded, h.modules]

theorem frame_eq (h : GivesBack loans c c') {rest : List Object}
    (hframe : c.interpreter.frame = loans.map Loan.object ++ rest) :
    c'.interpreter.frame = rest := by
  rw [h.frame, hframe]
  clear hframe h
  induction loans with
  | nil => rfl
  | cons loan loans ih =>
    rwa [List.map_cons, List.cons_append, List.foldl_cons, List.erase_cons_head]

theorem frame_eq_nil (h : GivesBack loans c c')
    (hframe : c.interpreter.frame = loans.map Loan.object) : c'.interpreter.frame = [] :=
  h.frame_eq (hframe.trans (List.append_nil _).symm)

theorem refers (h : GivesBack loans c c') {exporter : Nat}
    (hrefers : c'.interpreter.Refers exporter) : c.interpreter.Refers exporter := by
  obtain ⟨w, hw, hexporter⟩ := hrefers
  refine ⟨w, ?_, hexporter⟩
  have hframe : ∀ (loans : List Loan) (frame : List Object),
      loans.foldl (fun frame loan => frame.erase loan.object) frame ⊆ frame := by
    intro loans
    induction loans with
    | nil => exact fun frame => List.Subset.refl frame
    | cons loan loans ih => exact fun frame => List.Subset.trans (ih _) List.erase_subset
  simp only [Interpreter.live, List.mem_append, h.frame, h.stored, h.modules] at hw ⊢
  rcases hw with ((hw | hw) | hw) | hw
  · exact .inl (.inl (.inl (hframe _ _ hw)))
  · rcases h.garbage with hgarbage | hgarbage <;> rw [hgarbage] at hw
    · exact .inl (.inl (.inr hw))
    · exact nomatch hw
  · exact .inl (.inr hw)
  · exact .inr hw

end GivesBack

theorem givesBack_endLoan (c : Coupling) (loan : Loan) : GivesBack [loan] c (c.endLoan loan).2 := by
  cases loan with
  | copy ref writable components => exact ⟨rfl, rfl, rfl, rfl, .inl rfl, rfl, rfl, rfl, rfl⟩
  | array exporter o =>
    simp only [endLoan, close]
    split
    · exact ⟨rfl, rfl, rfl, rfl, .inr rfl, rfl, rfl, rfl, rfl⟩
    · exact ⟨rfl, rfl, rfl, rfl, .inl rfl, rfl, rfl, rfl, rfl⟩

theorem givesBack_dropLoan (c : Coupling) (loan : Loan) :
    GivesBack [loan] c (c.dropLoan loan) := by
  cases loan with
  | copy ref writable components => exact ⟨rfl, rfl, rfl, rfl, .inl rfl, rfl, rfl, rfl, rfl⟩
  | array exporter o =>
    simp only [dropLoan]
    split <;> exact ⟨rfl, rfl, rfl, rfl, .inl rfl, rfl, rfl, rfl, rfl⟩

theorem givesBack_endLoans (lent : List LentField) (c : Coupling) :
    GivesBack (lent.map (·.loan)) c (c.endLoans lent).2 := by
  induction lent generalizing c with
  | nil => exact .nil c
  | cons f fs ih =>
    rw [state_endLoans_cons]
    exact (givesBack_endLoan c f.loan).cons (ih _)

theorem givesBack_dropLoans (lent : List LentField) (c : Coupling) :
    GivesBack (lent.map (·.loan)) c (lent.foldl (fun c f => c.dropLoan f.loan) c) := by
  induction lent generalizing c with
  | nil => exact .nil c
  | cons f fs ih => exact (givesBack_dropLoan c f.loan).cons (ih _)

end Coupling

end FieldMesh

import FieldMesh.Cursor.Registers
import FieldMesh.Proofs.Walks

/-! # Marks

The plain account of named cursors. A mark is nowhere, or a position of a handle; each name has a
mark of its own, and what a command answers and where it moves a mark is said by positions in the
list of snapshots. On reachable meshes the registers answer every script as the marks do.
-/

namespace FieldMesh

/-- What a name stands for. -/
inductive Mark where
  | nowhere
  | spot (h : Handle) (position : Nat)

namespace Mark

def position? : Mark → Option Nat
  | nowhere => none
  | spot _ p => some p

def isNowhere : Mark → Bool
  | nowhere => true
  | spot .. => false

def rest (k : Kind) : Mark → List Snapshot
  | nowhere => []
  | spot h p => (h.view.snapshots k).drop p

def item? (k : Kind) (n : Nat) : Mark → Option Snapshot
  | nowhere => none
  | spot h p => (h.view.snapshots k)[p + n]?

/-- Some positions further, at most at the end. -/
def moved (k : Kind) (n : Nat) : Mark → Mark
  | nowhere => nowhere
  | spot h p => spot h (min (p + n) (h.view.count k))

def atEnd (k : Kind) : Mark → Mark
  | nowhere => nowhere
  | spot h _ => spot h (h.view.count k)

/-- Both are nowhere, or they are one position of one group of one mesh. -/
def Meets : Mark → Mark → Prop
  | nowhere, nowhere => True
  | spot h p, spot i q =>
    h.owner = i.owner ∧ h.view.subset.map (·.position) = i.view.subset.map (·.position) ∧ p = q
  | _, _ => False

instance : DecidableRel Meets
  | nowhere, nowhere => inferInstanceAs (Decidable True)
  | spot .., spot .. => inferInstanceAs (Decidable (_ ∧ _ ∧ _))
  | nowhere, spot .. => inferInstanceAs (Decidable False)
  | spot .., nowhere => inferInstanceAs (Decidable False)

def cursor (k : Kind) : Mark → Cursor k
  | nowhere => .singular
  | spot h p => .standing h p

/-- The mark is in a complete view and not behind its end. -/
def Valid (k : Kind) : Mark → Prop
  | nowhere => True
  | spot h p => h.view.Complete k ∧ p ≤ h.view.count k

end Mark

structure Marks where
  mark? : String → Option Mark

namespace Marks

def empty : Marks := ⟨fun _ => none⟩

def set (marks : Marks) (name : String) (a : Mark) : Marks :=
  ⟨fun other => if other = name then some a else marks.mark? other⟩

def on (marks : Marks) (name : String) (f : Mark → CursorAnswer × Marks) : CursorAnswer × Marks :=
  match marks.mark? name with
  | some a => f a
  | none => (.unset, marks)

/-- What a command answers and does by the plain account. -/
def step (k : Kind) (marks : Marks) : CursorCommand → CursorAnswer × Marks
  | .first into h => (.position (some 0), marks.set into (.spot h 0))
  | .last into h =>
    (.position (some (h.view.count k)), marks.set into (.spot h (h.view.count k)))
  | .singular into => (.done, marks.set into .nowhere)
  | .clone into source => marks.on source fun a =>
    (.positions a.position? a.position?, marks.set into a)
  | .postIncrement into source => marks.on source fun a =>
    (.positions a.position? (a.moved k 1).position?,
      (marks.set source (a.moved k 1)).set into a)
  | .advance name n => marks.on name fun a =>
    (.position (a.moved k n).position?, marks.set name (a.moved k n))
  | .get name => marks.on name fun a => (.item (a.item? k 0), marks)
  | .next name => marks.on name fun a => (.item (a.item? k 0), marks.set name (a.moved k 1))
  | .nth name n => marks.on name fun a =>
    (.item (a.item? k n), marks.set name (a.moved k (n + 1)))
  | .rest name => marks.on name fun a => (.items (a.rest k), marks.set name (a.atEnd k))
  | .compare x y => marks.on x fun a => marks.on y fun b => (.equal (decide (a.Meets b)), marks)
  | .inspect name => marks.on name fun a =>
    (.state a.position? (a.rest k).isEmpty a.isNowhere (a.rest k).length, marks)
  | .corner name index => marks.on name fun a =>
    (.corner (match a.item? k 0 with
      | none => .ok none
      | some s => (s.corner index).map some), marks)
  | .text name => marks.on name fun a => (.text (a.cursor k).text, marks)

def run (k : Kind) (marks : Marks) : List CursorCommand → List CursorAnswer × Marks
  | [] => ([], marks)
  | c :: cs =>
    ((marks.step k c).1 :: ((marks.step k c).2.run k cs).1, ((marks.step k c).2.run k cs).2)

end Marks

namespace CursorCommand

def handle? : CursorCommand → Option Handle
  | first _ h => some h
  | last _ h => some h
  | _ => none

/-- The names that a command gives a cursor or whose cursor it moves. -/
def writes : CursorCommand → List String
  | first into _ => [into]
  | last into _ => [into]
  | singular into => [into]
  | clone into _ => [into]
  | postIncrement into source => [into, source]
  | advance name _ => [name]
  | next name => [name]
  | nth name _ => [name]
  | rest name => [name]
  | _ => []

end CursorCommand

/-! ## Cursors at marks -/

namespace Mark

variable {k : Kind} {a b : Mark}

theorem Valid.moved (ha : a.Valid k) (n : Nat) : (a.moved k n).Valid k := by
  cases a with
  | nowhere => trivial
  | spot h p => exact ⟨ha.1, Nat.min_le_right _ _⟩

theorem Valid.atEnd (ha : a.Valid k) : (a.atEnd k).Valid k := by
  cases a with
  | nowhere => trivial
  | spot h p => exact ⟨ha.1, Nat.le_refl _⟩

theorem position?_cursor (ha : a.Valid k) : (a.cursor k).position? = a.position? := by
  cases a with
  | nowhere => rfl
  | spot h p =>
    have hp : p ≤ h.view.count k := ha.2
    simp [cursor, position?, Cursor.position?_standing, hp]

theorem isSingular_cursor (a : Mark) : (a.cursor k).isSingular = a.isNowhere := by
  cases a <;> rfl

theorem get?_cursor (ha : a.Valid k) : (a.cursor k).get? = a.item? k 0 := by
  cases a with
  | nowhere => rfl
  | spot h p => simp [cursor, item?, Cursor.get?_standing, ha.1.getElem?_snapshots]

theorem remaining_cursor (ha : a.Valid k) : (a.cursor k).remaining = (a.rest k).length := by
  cases a with
  | nowhere => rfl
  | spot h p => simp [cursor, rest, Cursor.remaining_standing, ha.1.length_snapshots]

theorem isEnd_cursor (ha : a.Valid k) : (a.cursor k).isEnd = (a.rest k).isEmpty := by
  cases a with
  | nowhere => rfl
  | spot h p =>
    have hlength := ha.1.length_snapshots
    have hend : h.view.count k ≤ min p (h.view.count k) ↔ h.view.count k ≤ p := by omega
    rw [Bool.eq_iff_iff]
    simp [cursor, rest, Cursor.isEnd, Cursor.place_standing, hlength, hend]

theorem advanceBy_cursor (a : Mark) (n : Nat) :
    (a.cursor k).advanceBy n = (a.moved k n).cursor k := by
  cases a with
  | nowhere => exact Cursor.advanceBy_singular n
  | spot h p => exact (Cursor.advanceBy_standing h p n).trans (Cursor.standing_min h _).symm

theorem nth_cursor (ha : a.Valid k) (n : Nat) :
    (a.cursor k).nth n = (a.item? k n, (a.moved k (n + 1)).cursor k) := by
  cases a with
  | nowhere => cases n <;> rfl
  | spot h p =>
    have hmoved := Cursor.standing_min (k := k) h (p + (n + 1))
    exact (Cursor.nth_standing ha.1 p n).trans (congrArg _ hmoved.symm)

theorem exhaust_cursor (ha : a.Valid k) :
    (a.cursor k).exhaust = (a.rest k, (a.atEnd k).cursor k) := by
  cases a with
  | nowhere => rfl
  | spot h p => exact Cursor.exhaust_standing ha.1 p

theorem beq_cursor (ha : a.Valid k) (hb : b.Valid k) :
    (a.cursor k == b.cursor k) = decide (a.Meets b) := by
  cases a with
  | nowhere => cases b <;> rfl
  | spot h p =>
    cases b with
    | nowhere => rfl
    | spot i q =>
      have hp : p ≤ h.view.count k := ha.2
      have hq : q ≤ i.view.count k := hb.2
      rw [Bool.eq_iff_iff, decide_eq_true_iff]
      simp only [cursor, Meets, Cursor.beq_standing, Bool.and_eq_true, beq_iff_eq,
        Handle.same_iff, Nat.min_eq_left hp, Nat.min_eq_left hq]
      exact ⟨fun h => ⟨h.2.1, h.2.2, h.1⟩, fun h => ⟨h.2.2, h.1, h.2.1⟩⟩

end Mark

/-! ## Registers and marks -/

namespace Registers

variable {k : Kind} {r : Registers k} {marks : Marks}

/-- Each name has a cursor at its mark. -/
structure Tracks (r : Registers k) (marks : Marks) : Prop where
  cursor? : ∀ name, r.cursor? name = (marks.mark? name).map (Mark.cursor k)
  valid : ∀ name a, marks.mark? name = some a → a.Valid k

/-- A command answers alike, and leaves registers and marks that go together. -/
def Agrees (x : CursorAnswer × Registers k) (y : CursorAnswer × Marks) : Prop :=
  x.1 = y.1 ∧ x.2.Tracks y.2

namespace Tracks

theorem empty : (empty : Registers k).Tracks Marks.empty :=
  ⟨fun _ => rfl, fun _ _ h => nomatch h⟩

theorem set (hr : r.Tracks marks) (name : String) {a : Mark} (ha : a.Valid k) :
    (r.set name (a.cursor k)).Tracks (marks.set name a) := by
  constructor
  · intro other
    by_cases hother : other = name
    · simp [Registers.set, Marks.set, hother]
    · simp [Registers.set, Marks.set, hother, hr.cursor? other]
  · intro other b hb
    by_cases hother : other = name
    · simp only [Marks.set, hother, if_true, Option.some.injEq] at hb
      exact hb ▸ ha
    · simp only [Marks.set, hother, if_false] at hb
      exact hr.valid other b hb

theorem on (hr : r.Tracks marks) (name : String) {f : Cursor k → CursorAnswer × Registers k}
    {g : Mark → CursorAnswer × Marks} (hfg : ∀ a, a.Valid k → Agrees (f (a.cursor k)) (g a)) :
    Agrees (r.on name f) (marks.on name g) := by
  have hname := hr.cursor? name
  unfold Registers.on Marks.on
  cases ha : marks.mark? name with
  | none =>
    rw [ha] at hname
    rw [hname]
    exact ⟨rfl, hr⟩
  | some a =>
    rw [ha] at hname
    rw [hname]
    exact hfg a (hr.valid name a ha)

theorem step (hr : r.Tracks marks) (c : CursorCommand)
    (complete : ∀ h ∈ c.handle?, h.view.Complete k) : Agrees (r.step c) (marks.step k c) := by
  cases c with
  | first into h =>
    have hc : h.view.Complete k := complete h rfl
    exact ⟨congrArg _ (Mark.position?_cursor (a := .spot h 0) ⟨hc, Nat.zero_le _⟩),
      hr.set into (a := .spot h 0) ⟨hc, Nat.zero_le _⟩⟩
  | last into h =>
    have hc : h.view.Complete k := complete h rfl
    have hvalid : (Mark.spot h (h.view.count k)).Valid k := ⟨hc, Nat.le_refl _⟩
    exact ⟨congrArg _ (Mark.position?_cursor hvalid), hr.set into hvalid⟩
  | singular into => exact ⟨rfl, hr.set into (a := .nowhere) trivial⟩
  | clone into source =>
    refine hr.on source fun a ha => ⟨?_, hr.set into ha⟩
    rw [Mark.position?_cursor ha]
  | postIncrement into source =>
    refine hr.on source fun a ha => ?_
    have hmoved : (a.cursor k).advance = (a.moved k 1).cursor k := Mark.advanceBy_cursor a 1
    rw [hmoved]
    refine ⟨?_, (hr.set source (ha.moved 1)).set into ha⟩
    rw [Mark.position?_cursor ha, Mark.position?_cursor (ha.moved 1)]
  | advance name n =>
    refine hr.on name fun a ha => ?_
    rw [Mark.advanceBy_cursor]
    refine ⟨?_, hr.set name (ha.moved n)⟩
    rw [Mark.position?_cursor (ha.moved n)]
  | get name =>
    refine hr.on name fun a ha => ⟨?_, hr⟩
    rw [Mark.get?_cursor ha]
  | next name =>
    refine hr.on name fun a ha => ?_
    have hnext : (a.cursor k).next = (a.item? k 0, (a.moved k 1).cursor k) :=
      Mark.nth_cursor ha 0
    rw [hnext]
    exact ⟨rfl, hr.set name (ha.moved 1)⟩
  | nth name n =>
    refine hr.on name fun a ha => ?_
    rw [Mark.nth_cursor ha]
    exact ⟨rfl, hr.set name (ha.moved (n + 1))⟩
  | rest name =>
    refine hr.on name fun a ha => ?_
    rw [Mark.exhaust_cursor ha]
    exact ⟨rfl, hr.set name ha.atEnd⟩
  | compare x y =>
    refine hr.on x fun a ha => hr.on y fun b hb => ⟨?_, hr⟩
    rw [Mark.beq_cursor ha hb]
  | inspect name =>
    refine hr.on name fun a ha => ⟨?_, hr⟩
    rw [Mark.position?_cursor ha, Mark.isEnd_cursor ha, Mark.isSingular_cursor,
      Mark.remaining_cursor ha]
  | corner name index =>
    refine hr.on name fun a ha => ⟨?_, hr⟩
    rw [Mark.get?_cursor ha]
    cases a.item? k 0 <;> rfl
  | text name => exact hr.on name fun a _ => ⟨rfl, hr⟩

theorem run (hr : r.Tracks marks) {script : List CursorCommand}
    (complete : ∀ c ∈ script, ∀ h ∈ c.handle?, h.view.Complete k) :
    (r.run script).1 = (marks.run k script).1 ∧
      (r.run script).2.Tracks (marks.run k script).2 := by
  induction script generalizing r marks with
  | nil => exact ⟨rfl, hr⟩
  | cons c cs ih =>
    obtain ⟨hanswer, hnext⟩ := hr.step c (complete c List.mem_cons_self)
    obtain ⟨hanswers, hlast⟩ := ih hnext fun d hd => complete d (List.mem_cons_of_mem c hd)
    exact ⟨List.cons_eq_cons.mpr ⟨hanswer, hanswers⟩, hlast⟩

end Tracks

theorem cursor?_step (r : Registers k) {c : CursorCommand} {name : String}
    (hname : name ∉ c.writes) : (r.step c).2.cursor? name = r.cursor? name := by
  have hon : ∀ (source : String) (f : Cursor k → CursorAnswer × Registers k),
      (∀ d, (f d).2.cursor? name = r.cursor? name) →
        (r.on source f).2.cursor? name = r.cursor? name := by
    intro source f hf
    unfold on
    cases r.cursor? source with
    | none => rfl
    | some d => exact hf d
  cases c <;> simp only [CursorCommand.writes, List.mem_cons, List.not_mem_nil, or_false, not_or] at hname
  case first | last | singular => exact cursor?_set_of_ne r _ hname
  case clone | advance | next | nth | rest => exact hon _ _ fun d => cursor?_set_of_ne r _ hname
  case postIncrement =>
    refine hon _ _ fun d => ?_
    rw [cursor?_set_of_ne _ _ hname.1, cursor?_set_of_ne _ _ hname.2]
  case get | inspect | corner | text => exact hon _ _ fun d => rfl
  case compare => exact hon _ _ fun d => hon _ _ fun e => rfl

theorem cursor?_run (r : Registers k) {script : List CursorCommand} {name : String}
    (hname : ∀ c ∈ script, name ∉ c.writes) : (r.run script).2.cursor? name = r.cursor? name := by
  induction script generalizing r with
  | nil => rfl
  | cons c cs ih =>
    have hrest := ih (r.step c).2 fun d hd => hname d (List.mem_cons_of_mem c hd)
    exact hrest.trans (cursor?_step r (hname c List.mem_cons_self))

theorem run_append (r : Registers k) (before after : List CursorCommand) :
    (r.run (before ++ after)).2 = ((r.run before).2.run after).2 := by
  induction before generalizing r with
  | nil => rfl
  | cons c cs ih => exact ih (r.step c).2

/-- Over reachable meshes the registers answer every script as the marks do and stand where the
marks say, never behind the end of a view. A name keeps its cursor through all commands that do not
write it, whatever becomes of the cursor it was copied from. -/
theorem run_follows_marks {world : MeshKey → Mesh} (reachable : ∀ key, (world key).Reachable)
    {k : Kind} {script : List CursorCommand}
    (shown : ∀ c ∈ script, ∀ h ∈ c.handle?, (world h.owner).Shows h.view) :
    ((empty : Registers k).run script).1 = (Marks.empty.run k script).1 ∧
    (∀ name, ((empty : Registers k).run script).2.cursor? name =
      ((Marks.empty.run k script).2.mark? name).map (Mark.cursor k)) ∧
    (∀ name h p, (Marks.empty.run k script).2.mark? name = some (.spot h p) →
      p ≤ h.view.count k) ∧
    ∀ name before after, script = before ++ after → (∀ c ∈ after, name ∉ c.writes) →
      ((empty : Registers k).run script).2.cursor? name =
        ((empty : Registers k).run before).2.cursor? name := by
  have complete : ∀ c ∈ script, ∀ h ∈ c.handle?, h.view.Complete k := by
    intro c hc h hh
    have hwired : (world h.owner).Wired := .of_reachable (reachable h.owner)
    exact hwired.complete (shown c hc h hh) k
  obtain ⟨hanswers, htracks⟩ := (Tracks.empty (k := k)).run complete
  refine ⟨hanswers, htracks.cursor?, ?_, ?_⟩
  · intro name h p hmark
    exact (htracks.valid name _ hmark).2
  · rintro name before after rfl hname
    rw [run_append, cursor?_run _ hname]

def twoMeshes (key : MeshKey) : Mesh :=
  if key = ⟨0⟩ then Edit.run (.plane "M") Edit.groupRun else .plane "N"

/-- A post-increment onto its own name, a copy that runs to the end, and cursors of two views. -/
def copyScript (h i : Handle) : List CursorCommand :=
  [.first "a" h, .postIncrement "a" "a", .clone "b" "a", .advance "b" 7, .nth "b" 2,
    .first "c" i, .compare "a" "c", .compare "b" "d", .singular "d", .next "d", .compare "d" "d"]

theorem run_follows_marks_copyScript :
    (∀ key, (twoMeshes key).Reachable) ∧ ∃ h i : Handle,
      (∀ c ∈ copyScript h i, ∀ x ∈ c.handle?, (twoMeshes x.owner).Shows x.view) ∧
      h.view.count .vertex = 2 ∧
      ((empty : Registers .vertex).run (copyScript h i)).2.cursor? "a" = some (.standing h 0) ∧
      ((empty : Registers .vertex).run (copyScript h i)).2.cursor? "b" = some (.standing h 2) := by
  have calls : Edit.Along Edit.InRange (.plane "M") Edit.groupRun := by decide +kernel
  have reachable : ∀ key, (twoMeshes key).Reachable := by
    intro key
    unfold twoMeshes
    split
    · exact ⟨"M", 2, .plane "M", Edit.groupRun, rfl, calls, rfl⟩
    · exact ⟨"N", 2, .plane "N", [], rfl, trivial, rfl⟩
  obtain ⟨w, hw, hcount⟩ : ∃ w, (twoMeshes ⟨0⟩).view "G" = .ok w ∧ w.count .vertex = 2 :=
    ⟨_, rfl, rfl⟩
  obtain ⟨u, hu⟩ : ∃ u, (twoMeshes ⟨1⟩).view "N" = .ok u := ⟨_, rfl⟩
  have shown : ∀ c ∈ copyScript ⟨⟨0⟩, w⟩ ⟨⟨1⟩, u⟩, ∀ x ∈ c.handle?,
      (twoMeshes x.owner).Shows x.view := by
    simp only [copyScript, List.forall_mem_cons, CursorCommand.handle?, Option.mem_def,
      Option.some.injEq, forall_eq', reduceCtorEq, false_imp_iff, implies_true, true_and]
    exact ⟨⟨"G", hw⟩, ⟨"N", hu⟩, nofun⟩
  obtain ⟨_, hcursors, _⟩ := run_follows_marks (k := .vertex) reachable shown
  refine ⟨reachable, _, _, shown, hcount, hcursors "a", (hcursors "b").trans ?_⟩
  change some (Cursor.standing _ (min (min 7 (w.count .vertex) + 3) (w.count .vertex))) = _
  simp [hcount]

end Registers

end FieldMesh

import FieldMesh.Proofs.Dispatch
import FieldMesh.Proofs.FieldNames

/-! # Configured actions

A registry is built from configurations if all the names in them resolve; otherwise the first
configuration at fault gives the error, and nothing is changed but the log. The actions that are
built keep ids. Since ids go on to stand for the names that they were looked up for, performing a
timing scales the fields of the configured names, whatever was edited or performed in between.
-/

namespace FieldMesh

section FirstFailure

variable {α β ε : Type} {f : α → Except ε β}

theorem mapM_eq_ok_iff {xs : List α} {ys : List β} :
    xs.mapM f = .ok ys ↔ List.Forall₂ (fun x y => f x = .ok y) xs ys := by
  induction xs generalizing ys with
  | nil =>
    rw [List.mapM_nil, List.forall₂_nil_left_iff]
    exact ⟨fun h => (Except.ok.inj h).symm, fun h => h ▸ rfl⟩
  | cons x xs ih =>
    rw [List.mapM_cons, List.forall₂_cons_left_iff]
    cases hx : f x with
    | error e => simp [bind, Except.bind]
    | ok y =>
      cases hxs : xs.mapM f with
      | error e =>
        have hnone : ∀ zs, ¬ List.Forall₂ (fun x y => f x = .ok y) xs zs := by
          intro zs hzs
          exact nomatch hxs.symm.trans (ih.mpr hzs)
        simp [bind, Except.bind, hnone]
      | ok zs =>
        have hall : ∀ us, List.Forall₂ (fun x y => f x = .ok y) xs us ↔ zs = us := by
          intro us
          rw [← ih, hxs, Except.ok.injEq]
        simp [bind, Except.bind, pure, Except.pure, hall, eq_comm]

theorem mapM_eq_error_iff {xs : List α} {e : ε} :
    xs.mapM f = .error e ↔ ∃ before x after, xs = before ++ x :: after ∧
      (∀ y ∈ before, ∃ b, f y = .ok b) ∧ f x = .error e := by
  induction xs with
  | nil => simp [pure, Except.pure]
  | cons x xs ih =>
    rw [List.mapM_cons]
    cases hx : f x with
    | error d =>
      constructor
      · intro h
        cases h
        exact ⟨[], x, xs, rfl, nofun, hx⟩
      · rintro ⟨before, y, after, hsplit, hbefore, hy⟩
        cases before with
        | nil =>
          cases hsplit
          cases hx.symm.trans hy
          rfl
        | cons z before =>
          cases hsplit
          obtain ⟨b, hb⟩ := hbefore _ List.mem_cons_self
          exact nomatch hx.symm.trans hb
    | ok b =>
      have htail : (do let rest ← xs.mapM f; pure (b :: rest)) = .error e ↔
          xs.mapM f = .error e := by
        cases xs.mapM f <;> simp [bind, Except.bind, pure, Except.pure]
      refine Iff.trans htail (ih.trans ?_)
      constructor
      · rintro ⟨before, y, after, rfl, hbefore, hy⟩
        exact ⟨x :: before, y, after, rfl, List.forall_mem_cons.mpr ⟨⟨b, hx⟩, hbefore⟩, hy⟩
      · rintro ⟨before, y, after, hsplit, hbefore, hy⟩
        cases before with
        | nil =>
          cases hsplit
          exact nomatch hx.symm.trans hy
        | cons z before =>
          cases hsplit
          exact ⟨before, y, after, rfl, (List.forall_mem_cons.mp hbefore).2, hy⟩

theorem exists_mapM_iff {xs : List α} :
    (∃ ys, xs.mapM f = .ok ys) ↔ ∀ x ∈ xs, ∃ y, f x = .ok y := by
  simp only [mapM_eq_ok_iff]
  induction xs with
  | nil => simp
  | cons x xs ih =>
    rw [List.forall_mem_cons, ← ih]
    simp only [List.forall₂_cons_left_iff]
    constructor
    · rintro ⟨_, y, ys, hy, hys, rfl⟩
      exact ⟨⟨y, hy⟩, ys, hys⟩
    · rintro ⟨⟨y, hy⟩, ys, hys⟩
      exact ⟨y :: ys, y, ys, hy, hys, rfl⟩

theorem exists_ok_iff {x : Except ε α} : (∃ a, x = .ok a) ↔ ∀ e, x ≠ .error e := by
  cases x <;> simp

end FirstFailure

namespace ActionConfig

variable {scripting : Bool} {resolve : String → Option MeshKey} {c : Coupling} {k : MeshKey}
  {config : ActionConfig} {name : String} {e : ActionError}

def isNative : ActionConfig → Bool
  | scripted .. => false
  | _ => true

/-- The names of fields in the order in which they are looked up. -/
def fieldNames : ActionConfig → List String
  | scaleByDt _ _ source target _ => [source, target]
  | scaleByArea _ _ target _ => [target]
  | scripted _ _ _ _ source target => source.toList ++ target.toList

/-- The mesh of a configuration is known and not in exclusive use, and it has all the fields. -/
def Resolves (resolve : String → Option MeshKey) (c : Coupling) (config : ActionConfig) : Prop :=
  ∃ k, resolve config.mesh = some k ∧ c.borrow k ≠ .exclusive ∧
    ∀ name ∈ config.fieldNames, name ∈ (c.mesh k).fieldNames

/-- What is at fault with a configuration: its mesh is not known, or else it is in exclusive use,
or else the first of its names that no field has. -/
inductive Faulty (resolve : String → Option MeshKey) (c : Coupling) (config : ActionConfig) :
    ActionError → Prop
  | unknownMesh (unknown : resolve config.mesh = none) :
      Faulty resolve c config (Registry.unknownMesh config)
  | busy {k : MeshKey} (known : resolve config.mesh = some k)
      (exclusive : c.borrow k = .exclusive) : Faulty resolve c config (.busy config.mesh)
  | unknownName {k : MeshKey} {before after : List String} {name : String}
      (known : resolve config.mesh = some k) (usable : c.borrow k ≠ .exclusive)
      (split : config.fieldNames = before ++ name :: after)
      (found : ∀ other ∈ before, other ∈ (c.mesh k).fieldNames)
      (missing : name ∉ (c.mesh k).fieldNames) :
      Faulty resolve c config (.mesh (.unknownFieldName (c.mesh k).name name))

theorem lookUp_eq_error_iff {mesh : String} :
    lookUp c mesh k name = .error e ↔
      (c.borrow k = .exclusive ∧ e = .busy mesh) ∨
        (c.borrow k ≠ .exclusive ∧ name ∉ (c.mesh k).fieldNames ∧
          e = .mesh (.unknownFieldName (c.mesh k).name name)) := by
  unfold lookUp
  split
  · rename_i hb
    simp [hb, eq_comm]
  · rename_i hb
    cases hd : (c.mesh k).fieldNamed name with
    | ok d =>
      have hfound : ¬ (name ∉ (c.mesh k).fieldNames) := by
        intro hmissing
        exact nomatch hd.symm.trans (Mesh.fieldNamed_eq_error_iff.mpr ⟨hmissing, rfl⟩)
      simp [Except.mapError, hfound]
      exact fun h => (hb h).elim
    | error e' =>
      obtain ⟨hmissing, rfl⟩ := Mesh.fieldNamed_eq_error_iff.mp hd
      have husable : c.borrow k ≠ .exclusive := hb
      simp [Except.mapError, husable, hmissing, eq_comm]

theorem name_of_lookUp {mesh : String} {d : FieldId} (labelled : (c.mesh k).Labelled)
    (h : lookUp c mesh k name = .ok d) : (c.mesh k).fieldNames[d.raw]? = some name := by
  unfold lookUp at h
  split at h
  · exact nomatch h
  · cases hd : (c.mesh k).fieldNamed name with
    | error e => exact nomatch hd ▸ h
    | ok d' =>
      rw [hd] at h
      cases h
      exact labelled.numbered.name_of_fieldNamed hd

theorem exists_lookUp_iff {mesh : String} :
    (∃ d, lookUp c mesh k name = .ok d) ↔
      c.borrow k ≠ .exclusive ∧ name ∈ (c.mesh k).fieldNames := by
  simp only [exists_ok_iff, ne_eq, lookUp_eq_error_iff]
  constructor
  · intro h
    have usable : c.borrow k ≠ .exclusive := fun hb => h _ (.inl ⟨hb, rfl⟩)
    exact ⟨usable, by_contra fun missing => h _ (.inr ⟨usable, missing, rfl⟩)⟩
  · rintro ⟨usable, found⟩ e (⟨exclusive, _⟩ | ⟨_, missing, _⟩)
    · exact usable exclusive
    · exact missing found

def attempt (scripting : Bool) (resolve : String → Option MeshKey) (c : Coupling)
    (config : ActionConfig) : Except ActionError Action :=
  match resolve config.mesh with
  | none => .error (Registry.unknownMesh config)
  | some k => config.build scripting c k

theorem build_eq_error_iff (native : config.isNative = true) :
    config.build scripting c k = .error e ↔
      config.fieldNames.mapM (lookUp c config.mesh k) = .error e := by
  cases config with
  | scripted => exact nomatch native
  | scaleByDt timing mesh source target scaling =>
    simp only [build, fieldNames, ActionConfig.mesh, List.mapM_cons, List.mapM_nil]
    cases lookUp c mesh k source with
    | error => simp [bind, Except.bind]
    | ok s =>
      cases lookUp c mesh k target <;> simp [bind, Except.bind, pure, Except.pure]
  | scaleByArea timing mesh target scaling =>
    simp only [build, fieldNames, ActionConfig.mesh, List.mapM_cons, List.mapM_nil]
    cases lookUp c mesh k target <;> simp [bind, Except.bind, pure, Except.pure]

theorem fieldNames_ne_nil (native : config.isNative = true) : config.fieldNames ≠ [] := by
  cases config with
  | scripted => exact nomatch native
  | _ => exact List.cons_ne_nil _ _

theorem attempt_eq_error_iff (native : config.isNative = true) :
    attempt scripting resolve c config = .error e ↔ Faulty resolve c config e := by
  unfold attempt
  split
  · rename_i unknown
    constructor
    · intro h
      cases h
      exact .unknownMesh unknown
    · rintro (_ | ⟨known, _⟩ | ⟨known, _⟩)
      · rfl
      · exact nomatch unknown.symm.trans known
      · exact nomatch unknown.symm.trans known
  · rename_i k known
    rw [build_eq_error_iff native, mapM_eq_error_iff]
    constructor
    · rintro ⟨before, name, after, split, found, hname⟩
      rcases lookUp_eq_error_iff.mp hname with ⟨exclusive, rfl⟩ | ⟨usable, missing, rfl⟩
      · exact .busy known exclusive
      · exact .unknownName known usable split
          (fun other h => (exists_lookUp_iff.mp (found other h)).2) missing
    · rintro (unknown | ⟨known', exclusive⟩ | ⟨known', usable, split, found, missing⟩)
      · exact nomatch unknown.symm.trans known
      · cases known.symm.trans known'
        obtain ⟨name, after, split⟩ := List.exists_cons_of_ne_nil (fieldNames_ne_nil native)
        exact ⟨[], name, after, split, nofun, lookUp_eq_error_iff.mpr (.inl ⟨exclusive, rfl⟩)⟩
      · cases known.symm.trans known'
        exact ⟨_, _, _, split, fun other h => exists_lookUp_iff.mpr ⟨usable, found other h⟩,
          lookUp_eq_error_iff.mpr (.inr ⟨usable, missing, rfl⟩)⟩

theorem exists_attempt_iff (native : config.isNative = true) :
    (∃ a, attempt scripting resolve c config = .ok a) ↔ Resolves resolve c config := by
  unfold attempt Resolves
  split
  · rename_i unknown
    simp [unknown]
  · rename_i k known
    have hbuild : (∃ a, config.build scripting c k = .ok a) ↔
        ∀ name ∈ config.fieldNames, c.borrow k ≠ .exclusive ∧ name ∈ (c.mesh k).fieldNames := by
      simp only [exists_ok_iff, ne_eq, build_eq_error_iff native]
      rw [← exists_ok_iff, exists_mapM_iff]
      simp only [exists_lookUp_iff]
    rw [hbuild]
    constructor
    · intro h
      obtain ⟨name, hname⟩ := List.exists_mem_of_ne_nil _ (fieldNames_ne_nil native)
      exact ⟨k, known, (h name hname).1, fun name hname => (h name hname).2⟩
    · rintro ⟨k', known', usable, found⟩ name hname
      cases known.symm.trans known'
      exact ⟨usable, found name hname⟩

end ActionConfig

namespace Coupling

variable {c c' : Coupling} {k : MeshKey}

def unlogged (c : Coupling) : Coupling := { c with log := [] }

def edit (k : MeshKey) (e : Edit) (c : Coupling) : Coupling :=
  c.setMesh k (e.apply (c.mesh k)).mesh

/-- What has become of all meshes, as far as the names of fields are concerned. -/
def Relabels (c c' : Coupling) : Prop := ∀ k, (c.mesh k).Relabels (c'.mesh k)

theorem Relabels.trans {c'' : Coupling} (h₁ : c.Relabels c') (h₂ : c'.Relabels c'') :
    c.Relabels c'' := fun k => (h₁ k).trans (h₂ k)

theorem relabels_of_cells (h : c'.cells = c.cells) : c.Relabels c' := by
  intro k
  unfold mesh cell?
  rw [h]
  exact .refl _

theorem relabels_setMesh {m : Mesh} (h : (c.mesh k).Relabels m) : c.Relabels (c.setMesh k m) := by
  intro other
  by_cases hother : other = k
  · subst hother
    by_cases hlt : other.index < c.cells.length
    · rwa [mesh_setMesh_self hlt]
    · have hcells : (c.setMesh other m).cells = c.cells :=
        List.modify_eq_self (Nat.not_lt.mp hlt)
      exact relabels_of_cells hcells other
  · rw [mesh_setMesh_of_ne hother]
    exact .refl _

theorem relabels_setBorrow (b : Borrow) : c.Relabels (c.setBorrow k b) := by
  intro other
  rw [mesh_setBorrow]
  exact .refl _

theorem relabels_edit {e : Edit} (keeps : e.keepsFields = true) : c.Relabels (c.edit k e) :=
  relabels_setMesh ((c.mesh k).relabels_apply keeps)

theorem relabels_transform {f : Mesh → Except (Failure ActionError) (Mesh × List LogRecord)}
    (hf : ∀ m records, f (c.mesh k) = .ok (m, records) → (c.mesh k).Relabels m) :
    c.Relabels (c.transform k f).2 := by
  unfold transform
  split
  · exact relabels_of_cells rfl
  · split
    · exact relabels_of_cells rfl
    · rename_i m records hm
      exact (relabels_setMesh (hf m records hm)).trans (relabels_of_cells rfl)

theorem transform_congr {f g : Mesh → Except (Failure ActionError) (Mesh × List LogRecord)}
    (h : f (c.mesh k) = g (c.mesh k)) : c.transform k f = c.transform k g := by
  simp only [transform, h]

theorem transform_unlogged (h : c.unlogged = c'.unlogged) (k : MeshKey)
    (f : Mesh → Except (Failure ActionError) (Mesh × List LogRecord)) :
    (c.transform k f).1 = (c'.transform k f).1 ∧
      (c.transform k f).2.unlogged = (c'.transform k f).2.unlogged := by
  have hmesh : c.mesh k = c'.mesh k := congrArg (·.mesh k) h
  have hfree : c.checkFree k = c'.checkFree k := congrArg (·.checkFree k) h
  unfold transform
  rw [hfree, hmesh]
  split
  · exact ⟨rfl, h⟩
  · split
    · exact ⟨rfl, h⟩
    · rename_i m records hm
      exact ⟨rfl, congrArg (·.setMesh k m) h⟩

end Coupling

namespace ActionConfig

variable {resolve : String → Option MeshKey} {c c' : Coupling} {config : ActionConfig}
  {configs : List ActionConfig} {a : Action} {step : Step}

/-- What a configured scaling makes of a mesh, in terms of names. -/
def scale (config : ActionConfig) (step : Step) (m : Mesh) :
    Except (Failure ActionError) (Mesh × List LogRecord) :=
  match config with
  | scaleByDt _ _ source target scaling => m.scaleNamedByDt source target scaling step
  | scaleByArea _ _ target scaling => m.scaleNamedByArea target scaling
  | scripted .. => .ok (m, [])

def carryOut (resolve : String → Option MeshKey) (step : Step) (config : ActionConfig)
    (c : Coupling) : Except (Failure ActionError) Unit × Coupling :=
  match resolve config.mesh with
  | none => (.error (.refused (Registry.unknownMesh config)), c)
  | some k => c.transform k (config.scale step)

/-- Carries out configurations in order, up to the first that fails. -/
def carryOutAll (resolve : String → Option MeshKey) (step : Step) :
    List ActionConfig → Coupling → Except (Failure ActionError) Unit × Coupling
  | [], c => (.ok (), c)
  | config :: rest, c =>
    match config.carryOut resolve step c with
    | (.ok (), c) => carryOutAll resolve step rest c
    | (.error e, c) => (.error e, c)

theorem carryOutAll_cons (resolve : String → Option MeshKey) (step : Step)
    (config : ActionConfig) (rest : List ActionConfig) (c : Coupling) :
    carryOutAll resolve step (config :: rest) c =
      match (config.carryOut resolve step c).1 with
      | .ok () => carryOutAll resolve step rest (config.carryOut resolve step c).2
      | .error e => (.error e, (config.carryOut resolve step c).2) := by
  rw [carryOutAll]
  rcases config.carryOut resolve step c with ⟨_ | ⟨⟨⟩⟩, _⟩ <;> rfl

theorem carryOut_unlogged (resolve : String → Option MeshKey) (step : Step)
    (config : ActionConfig) (h : c.unlogged = c'.unlogged) :
    (config.carryOut resolve step c).1 = (config.carryOut resolve step c').1 ∧
      (config.carryOut resolve step c).2.unlogged =
        (config.carryOut resolve step c').2.unlogged := by
  unfold carryOut
  split
  · exact ⟨rfl, h⟩
  · exact Coupling.transform_unlogged h _ _

theorem carryOutAll_unlogged (resolve : String → Option MeshKey) (step : Step)
    (configs : List ActionConfig) (h : c.unlogged = c'.unlogged) :
    (carryOutAll resolve step configs c).1 = (carryOutAll resolve step configs c').1 ∧
      (carryOutAll resolve step configs c).2.unlogged =
        (carryOutAll resolve step configs c').2.unlogged := by
  induction configs generalizing c c' with
  | nil => exact ⟨rfl, h⟩
  | cons config rest ih =>
    obtain ⟨hanswer, hstate⟩ := carryOut_unlogged resolve step config h
    rw [carryOutAll_cons, carryOutAll_cons, ← hanswer]
    cases (config.carryOut resolve step c).1 with
    | error e => exact ⟨rfl, hstate⟩
    | ok u => exact ih hstate

/-- A configuration and the action that was built from it: the ids that the action keeps stand for
the configured names. -/
inductive Bound (resolve : String → Option MeshKey) (c : Coupling) :
    ActionConfig → Action → Prop
  | scaleByDt {timing : Timing} {mesh sourceName targetName : String} {scaling : DtScaling}
      {k : MeshKey} {source target : FieldId} (known : resolve mesh = some k)
      (labelled : (c.mesh k).Labelled)
      (hs : (c.mesh k).fieldNames[source.raw]? = some sourceName)
      (ht : (c.mesh k).fieldNames[target.raw]? = some targetName) :
      Bound resolve c (.scaleByDt timing mesh sourceName targetName scaling)
        (.scaleByDt timing k source target scaling)
  | scaleByArea {timing : Timing} {mesh targetName : String} {scaling : AreaScaling}
      {k : MeshKey} {target : FieldId} (known : resolve mesh = some k)
      (labelled : (c.mesh k).Labelled)
      (ht : (c.mesh k).fieldNames[target.raw]? = some targetName) :
      Bound resolve c (.scaleByArea timing mesh targetName scaling)
        (.scaleByArea timing k target scaling)

namespace Bound

theorem timing_eq (h : Bound resolve c config a) : a.timing = config.timing := by
  cases h <;> rfl

theorem relabels (h : Bound resolve c config a) (hc : c.Relabels c') :
    Bound resolve c' config a := by
  cases h with
  | scaleByDt known labelled hs ht =>
    obtain ⟨labelled', hnames⟩ := hc _ labelled
    exact .scaleByDt known labelled' (Mesh.name_of_prefix hnames hs)
      (Mesh.name_of_prefix hnames ht)
  | scaleByArea known labelled ht =>
    obtain ⟨labelled', hnames⟩ := hc _ labelled
    exact .scaleByArea known labelled' (Mesh.name_of_prefix hnames ht)

theorem perform_eq (h : Bound resolve c config a) (step : Step) :
    a.perform step c =
      ⟨(config.carryOut resolve step c).1, a, (config.carryOut resolve step c).2⟩ := by
  cases h with
  | @scaleByDt _ _ source target scaling k s t known labelled hs ht =>
    have hscale : c.transform k (·.scaleByDt s t scaling step) =
        c.transform k (·.scaleNamedByDt source target scaling step) :=
      Coupling.transform_congr (labelled.scaleByDt_eq hs ht scaling step)
    simp only [carryOut, ActionConfig.mesh, known, Action.perform, hscale]
    rfl
  | @scaleByArea _ _ target scaling k t known labelled ht =>
    have hscale : c.transform k (·.scaleByArea t scaling) =
        c.transform k (·.scaleNamedByArea target scaling) :=
      Coupling.transform_congr (labelled.scaleByArea_eq ht scaling)
    simp only [carryOut, ActionConfig.mesh, known, Action.perform, hscale]
    rfl

theorem relabels_perform (h : Bound resolve c config a) (step : Step) :
    c.Relabels (a.perform step c).state := by
  cases h with
  | @scaleByDt _ _ _ _ scaling k source target =>
    change c.Relabels (c.transform k (·.scaleByDt source target scaling step)).2
    exact Coupling.relabels_transform fun _ _ h => Mesh.relabels_scaleByDt h
  | @scaleByArea _ _ _ scaling k target =>
    change c.Relabels (c.transform k (·.scaleByArea target scaling)).2
    exact Coupling.relabels_transform fun _ _ h => Mesh.relabels_scaleByArea h

end Bound

inductive LookedUp (c : Coupling) (k : MeshKey) : ActionConfig → Action → Prop
  | scaleByDt {timing : Timing} {mesh sourceName targetName : String} {scaling : DtScaling}
      {source target : FieldId} (hs : lookUp c mesh k sourceName = .ok source)
      (ht : lookUp c mesh k targetName = .ok target) :
      LookedUp c k (.scaleByDt timing mesh sourceName targetName scaling)
        (.scaleByDt timing k source target scaling)
  | scaleByArea {timing : Timing} {mesh targetName : String} {scaling : AreaScaling}
      {target : FieldId} (ht : lookUp c mesh k targetName = .ok target) :
      LookedUp c k (.scaleByArea timing mesh targetName scaling)
        (.scaleByArea timing k target scaling)

theorem lookedUp_of_attempt {scripting : Bool} (native : config.isNative = true)
    (h : attempt scripting resolve c config = .ok a) :
    ∃ k, resolve config.mesh = some k ∧ LookedUp c k config a := by
  unfold attempt at h
  split at h
  · exact nomatch h
  · rename_i k known
    refine ⟨k, known, ?_⟩
    cases config with
    | scripted => exact nomatch native
    | scaleByDt timing mesh source target scaling =>
      simp only [build] at h
      cases hs : lookUp c mesh k source with
      | error e => exact nomatch hs ▸ h
      | ok s =>
        cases ht : lookUp c mesh k target with
        | error e => exact nomatch hs ▸ ht ▸ h
        | ok t =>
          rw [hs, ht] at h
          cases h
          exact .scaleByDt hs ht
    | scaleByArea timing mesh target scaling =>
      simp only [build] at h
      cases ht : lookUp c mesh k target with
      | error e => exact nomatch ht ▸ h
      | ok t =>
        rw [ht] at h
        cases h
        exact .scaleByArea ht

theorem timing_of_attempt {scripting : Bool} (native : config.isNative = true)
    (h : attempt scripting resolve c config = .ok a) : a.timing = config.timing := by
  obtain ⟨_, _, hlooked⟩ := lookedUp_of_attempt native h
  cases hlooked <;> rfl

theorem bound_of_attempt {scripting : Bool} (native : config.isNative = true)
    (labelled : ∀ k, resolve config.mesh = some k → (c.mesh k).Labelled)
    (h : attempt scripting resolve c config = .ok a) : Bound resolve c config a := by
  obtain ⟨k, known, hlooked⟩ := lookedUp_of_attempt native h
  cases hlooked with
  | scaleByDt hs ht =>
    exact .scaleByDt known (labelled k known) (name_of_lookUp (labelled k known) hs)
      (name_of_lookUp (labelled k known) ht)
  | scaleByArea ht =>
    exact .scaleByArea known (labelled k known) (name_of_lookUp (labelled k known) ht)

end ActionConfig

namespace Registry

open ActionConfig

variable {scripting : Bool} {resolve : String → Option MeshKey} {c : Coupling}
  {configs : List ActionConfig}

theorem registerConfigs_cons (config : ActionConfig) (r : Registry Action) (c : Coupling) :
    registerConfigs scripting resolve (config :: configs) r c =
      match attempt scripting resolve c config with
      | .error e => (.error e, c)
      | .ok a =>
        registerConfigs scripting resolve configs (r.register a c).1 (r.register a c).2 := by
  unfold attempt
  rw [registerConfigs]
  cases resolve config.mesh <;> rfl

/-- Building a registry is attempting its configurations one after the other; only the log tells
of those that succeed. -/
theorem registerConfigs_eq (r : Registry Action) (c : Coupling) :
    (registerConfigs scripting resolve configs r c).1 =
        (configs.mapM (attempt scripting resolve c)).map (fun actions => ⟨r.actions ++ actions⟩) ∧
      (registerConfigs scripting resolve configs r c).2.unlogged = c.unlogged := by
  induction configs generalizing r c with
  | nil => exact ⟨by simp [registerConfigs, Except.map, pure, Except.pure], rfl⟩
  | cons config rest ih =>
    rw [registerConfigs_cons, List.mapM_cons]
    cases attempt scripting resolve c config with
    | error e => exact ⟨rfl, rfl⟩
    | ok a =>
      obtain ⟨hrest, hlog⟩ := ih (r.register a c).1 (r.register a c).2
      have hsame : attempt scripting resolve (r.register a c).2 = attempt scripting resolve c := rfl
      refine ⟨?_, hlog⟩
      dsimp only
      rw [hrest, hsame]
      cases rest.mapM (attempt scripting resolve c) with
      | error e => rfl
      | ok actions => simp [register, Except.map, bind, Except.bind, pure, Except.pure]

/-- A performance that began in a coupling did what was wanted, but for the log: it left the actions
that it found, and every id stands for the name it stood for. -/
structure CarriedOut {α : Type} (c : Coupling) (found : α) (done : Performed α Coupling)
    (wanted : Except (Failure ActionError) Unit × Coupling) : Prop where
  action_eq : done.action = found
  relabels : c.Relabels done.state
  answer_eq : done.answer = wanted.1
  unlogged_eq : done.state.unlogged = wanted.2.unlogged

theorem carriedOut_performOne {config : ActionConfig} {a : Action} (h : Bound resolve c config a)
    (t : Timing) (step : Step) :
    CarriedOut c a (performOne t step a c) (config.carryOut resolve step c) := by
  have hgiven : c.Relabels (c.emitAll [performingRecord a t step]) :=
    Coupling.relabels_of_cells rfl
  have hperform := (h.relabels hgiven).perform_eq step
  have hrelabels := hgiven.trans ((h.relabels hgiven).relabels_perform step)
  have hsame : (c.emitAll [performingRecord a t step]).unlogged = c.unlogged := rfl
  obtain ⟨hanswer, hstate⟩ := carryOut_unlogged resolve step config hsame
  have hown : CarriedOut c a (a.perform step (c.emitAll [performingRecord a t step]))
      (config.carryOut resolve step c) := by
    rw [hperform] at hrelabels ⊢
    exact ⟨rfl, hrelabels, hanswer, hstate⟩
  simp only [performOne]
  split
  · exact ⟨hown.action_eq, hown.relabels.trans (Coupling.relabels_of_cells rfl), hown.answer_eq,
      hown.unlogged_eq⟩
  · exact hown

/-- The induction is over the actions with their configurations; the bindings survive every
action. -/
theorem carriedOut_performAll {actions : List Action}
    (h : List.Forall₂ (Bound resolve c) configs actions) (t : Timing) (step : Step) :
    CarriedOut c actions (performAll t step actions c)
      (carryOutAll resolve step (configs.filter fun config => config.timing = t) c) := by
  induction actions generalizing configs c with
  | nil =>
    cases h
    exact ⟨rfl, Coupling.relabels_of_cells rfl, rfl, rfl⟩
  | cons a rest ih =>
    cases h with
    | @cons config _ configs _ hbound hrest =>
      have htiming : Performable.timing a = config.timing := hbound.timing_eq
      rw [performAll, htiming]
      by_cases ht : config.timing = t
      · have hone := carriedOut_performOne hbound t step
        have hfilter : ((config :: configs).filter fun config => config.timing = t) =
            config :: configs.filter fun config => config.timing = t := by simp [ht]
        rw [if_pos ht, hfilter, carryOutAll_cons, ← hone.answer_eq]
        cases hdone : (performOne t step a c).answer with
        | error e =>
          simp only [hdone]
          exact ⟨congrArg (· :: rest) hone.action_eq, hone.relabels, rfl, hone.unlogged_eq⟩
        | ok u =>
          have hall := ih (hrest.imp fun _ _ h => h.relabels hone.relabels)
          obtain ⟨hanswer, hstate⟩ := carryOutAll_unlogged resolve step
            (configs.filter fun config => config.timing = t) hone.unlogged_eq
          simp only [hdone]
          exact ⟨congrArg₂ List.cons hone.action_eq hall.action_eq,
            hone.relabels.trans hall.relabels, hall.answer_eq.trans hanswer,
            hall.unlogged_eq.trans hstate⟩
      · have hfilter : ((config :: configs).filter fun config => config.timing = t) =
            configs.filter fun config => config.timing = t := by simp [ht]
        have hall := ih hrest
        rw [if_neg ht, hfilter]
        exact ⟨congrArg (a :: ·) hall.action_eq, hall.relabels, hall.answer_eq, hall.unlogged_eq⟩

/-- What can happen between building a registry and performing a timing: the registry is performed,
a mesh is edited without replacing a field, or a mesh is put to use elsewhere. -/
inductive Keeping : Event Action Coupling → Prop
  | perform (t : Timing) (step : Step) : Keeping (.perform t step)
  | edit (k : MeshKey) {e : Edit} (keeps : e.keepsFields = true) :
      Keeping (.meanwhile (Coupling.edit k e))
  | hold (k : MeshKey) (b : Borrow) : Keeping (.meanwhile fun c => c.setBorrow k b)

theorem bound_after {r : Registry Action} {event : Event Action Coupling}
    (h : List.Forall₂ (Bound resolve c) configs r.actions) (keeping : Keeping event) :
    (after (r, c) event).1 = r ∧
      List.Forall₂ (Bound resolve (after (r, c) event).2) configs r.actions := by
  cases keeping with
  | perform t step =>
    have hall := carriedOut_performAll h t step
    exact ⟨congrArg Registry.mk hall.action_eq, h.imp fun _ _ hb => hb.relabels hall.relabels⟩
  | edit k keeps =>
    exact ⟨rfl, h.imp fun _ _ hb => hb.relabels (Coupling.relabels_edit keeps)⟩
  | hold k b =>
    exact ⟨rfl, h.imp fun _ _ hb => hb.relabels (Coupling.relabels_setBorrow b)⟩

theorem bound_foldl_after {r : Registry Action} {events : List (Event Action Coupling)}
    (h : List.Forall₂ (Bound resolve c) configs r.actions)
    (keeping : ∀ event ∈ events, Keeping event) :
    (events.foldl after (r, c)).1 = r ∧
      List.Forall₂ (Bound resolve (events.foldl after (r, c)).2) configs r.actions := by
  induction events generalizing c with
  | nil => exact ⟨rfl, h⟩
  | cons event events ih =>
    rw [List.forall_mem_cons] at keeping
    obtain ⟨hr, hbound⟩ := bound_after h keeping.1
    have hafter : after (r, c) event = (r, (after (r, c) event).2) := Prod.ext hr rfl
    rw [List.foldl_cons, hafter]
    exact ih hbound keeping.2

theorem ofConfigs_eq_ok {r : Registry Action}
    (h : (ofConfigs scripting resolve configs c).1 = .ok r) :
    List.Forall₂ (fun config a => attempt scripting resolve c config = .ok a) configs
      r.actions := by
  rw [ofConfigs, (registerConfigs_eq empty c).1] at h
  cases hactions : configs.mapM (attempt scripting resolve c) with
  | error e => exact nomatch hactions ▸ h
  | ok actions =>
    rw [hactions] at h
    cases h
    exact mapM_eq_ok_iff.mp hactions

theorem ofConfigs_eq_error_iff {e : ActionError} :
    (ofConfigs scripting resolve configs c).1 = .error e ↔
      configs.mapM (attempt scripting resolve c) = .error e := by
  rw [ofConfigs, (registerConfigs_eq empty c).1]
  cases configs.mapM (attempt scripting resolve c) <;> simp [Except.map]

/-- A registry of native actions is built exactly if all names of the configurations resolve. The
first configuration at fault gives the error, and only the log changes. The actions that are built
go on to act on the fields of the configured names, so that performing a timing carries out the
configurations of that timing in order, up to the first that fails. -/
theorem configured_by_name (scripting : Bool) (resolve : String → Option MeshKey)
    {configs : List ActionConfig} (native : ∀ config ∈ configs, config.isNative = true)
    (c : Coupling) :
    let built := ofConfigs scripting resolve configs c
    ((∃ r, built.1 = .ok r) ↔ ∀ config ∈ configs, Resolves resolve c config) ∧
      (∀ e, built.1 = .error e ↔ ∃ before config after, configs = before ++ config :: after ∧
        (∀ other ∈ before, Resolves resolve c other) ∧ Faulty resolve c config e) ∧
      built.2.unlogged = c.unlogged ∧
      ∀ r, built.1 = .ok r →
        r.actions.map Action.timing = configs.map ActionConfig.timing ∧
        ((∀ config ∈ configs, ∀ k, resolve config.mesh = some k → (c.mesh k).Built) →
          ∀ events : List (Event Action Coupling), (∀ event ∈ events, Keeping event) →
            let now := events.foldl after (r, built.2)
            now.1 = r ∧ List.Forall₂ (Bound resolve now.2) configs r.actions ∧
              ∀ t step,
                let done := now.1.perform t step now.2
                let wanted := carryOutAll resolve step
                  (configs.filter fun config => config.timing = t) now.2
                done.answer = wanted.1 ∧ done.state.unlogged = wanted.2.unlogged) := by
  intro built
  have hunlogged : built.2.unlogged = c.unlogged := (registerConfigs_eq empty c).2
  refine ⟨?_, ?_, hunlogged, ?_⟩
  · simp only [built, exists_ok_iff, ne_eq, ofConfigs_eq_error_iff]
    rw [← exists_ok_iff, exists_mapM_iff]
    exact forall₂_congr fun config hconfig => exists_attempt_iff (native config hconfig)
  · intro e
    rw [ofConfigs_eq_error_iff, mapM_eq_error_iff]
    constructor
    · rintro ⟨before, config, after, rfl, passed, hfails⟩
      have hconfig := native config (List.mem_append_cons_self)
      refine ⟨before, config, after, rfl, fun other hother => ?_,
        (attempt_eq_error_iff hconfig).mp hfails⟩
      have hnative := native other (List.mem_append_left _ hother)
      exact (exists_attempt_iff hnative).mp (passed other hother)
    · rintro ⟨before, config, after, rfl, passed, hfaulty⟩
      have hconfig := native config (List.mem_append_cons_self)
      refine ⟨before, config, after, rfl, fun other hother => ?_,
        (attempt_eq_error_iff hconfig).mpr hfaulty⟩
      have hnative := native other (List.mem_append_left _ hother)
      exact (exists_attempt_iff hnative).mpr (passed other hother)
  · intro r hr
    have hattempts : List.Forall₂ (fun config a => config ∈ configs ∧
        attempt scripting resolve c config = .ok a) configs r.actions :=
      (List.forall₂_and_left configs r.actions).mpr ⟨fun _ => id, ofConfigs_eq_ok hr⟩
    constructor
    · have htimings : List.Forall₂ (· = ·) (configs.map ActionConfig.timing)
          (r.actions.map Action.timing) := by
        rw [List.forall₂_map_left_iff, List.forall₂_map_right_iff]
        exact hattempts.imp fun config a h => (timing_of_attempt (native config h.1) h.2).symm
      rw [List.forall₂_eq_eq_eq] at htimings
      exact htimings.symm
    · intro meshes events keeping now
      have hcells : c.Relabels built.2 := Coupling.relabels_of_cells (congrArg (·.cells) hunlogged)
      have hbound : List.Forall₂ (Bound resolve built.2) configs r.actions := by
        refine hattempts.imp fun config a h =>
          (bound_of_attempt (native config h.1) ?_ h.2).relabels hcells
        exact fun k known => (meshes config h.1 k known).labelled
      obtain ⟨hnow, hlater⟩ := bound_foldl_after hbound keeping
      refine ⟨hnow, hlater, fun t step => ?_⟩
      have hall := carriedOut_performAll hlater t step
      rw [hnow]
      exact ⟨hall.answer_eq, hall.unlogged_eq⟩

def pairCoupling (b : Borrow) : Coupling :=
  ⟨[⟨Edit.run (.plane "M") Edit.pairRun, b⟩], [], [], .start default, ⟨0, 0, [], []⟩⟩

def onlyMesh (name : String) : Option MeshKey := if name = "M" then some ⟨0⟩ else none

def pairConfigs : List ActionConfig :=
  [.scaleByDt .regularPost "M" "A" "B" .byDt, .scaleByArea .regularPost "M" "B" .multiplyingByArea]

def pairEvents : List (Event Action Coupling) :=
  [.meanwhile (Coupling.edit ⟨0⟩ (.createVertex [0.0, 1.0])),
    .perform .regularPost ⟨0.0, 0.5, 0.5, 1.0⟩,
    .meanwhile (Coupling.edit ⟨0⟩ (.createField "C" 1)), .meanwhile (·.setBorrow ⟨0⟩ .shared),
    .meanwhile (Coupling.edit ⟨0⟩ .allocate), .meanwhile (·.setBorrow ⟨0⟩ .free)]

theorem configured_by_name_pairEvents :
    let built := ofConfigs true onlyMesh pairConfigs (pairCoupling .free)
    (∀ config ∈ pairConfigs, config.isNative = true) ∧
      ∃ r, built.1 = .ok r ∧ r.actions.length = 2 ∧
        let now := pairEvents.foldl after (r, built.2)
        let done := now.1.perform .regularPost default now.2
        let wanted := carryOutAll onlyMesh default
          (pairConfigs.filter fun config => config.timing = .regularPost) now.2
        done.answer = .ok () ∧ done.answer = wanted.1 ∧
          done.state.unlogged = wanted.2.unlogged := by
  have native : ∀ config ∈ pairConfigs, config.isNative = true := by decide
  have keeping : ∀ event ∈ pairEvents, Keeping event := by
    simp only [pairEvents, List.forall_mem_cons]
    exact ⟨.edit _ rfl, .perform _ _, .edit _ rfl, .hold _ _, .edit _ rfl, .hold _ _, nofun⟩
  have meshes : ∀ config ∈ pairConfigs, ∀ k, onlyMesh config.mesh = some k →
      ((pairCoupling .free).mesh k).Built := by
    have hpair : (Edit.run (.plane "M") Edit.pairRun).Built :=
      ⟨"M", 2, _, _, Mesh.new_plane "M", by decide, rfl⟩
    have hnames : ∀ config ∈ pairConfigs, config.mesh = "M" := by decide
    intro config hconfig k known
    rw [hnames config hconfig] at known
    cases known
    exact hpair
  obtain ⟨_, _, _, hbuilt⟩ := configured_by_name true onlyMesh native (pairCoupling .free)
  obtain ⟨_, hlater⟩ := hbuilt _ rfl
  obtain ⟨_, _, hperform⟩ := hlater meshes pairEvents keeping
  exact ⟨native, _, rfl, rfl, rfl, hperform .regularPost default⟩

/-- A mesh in exclusive use resolves to no action, although it is known and has the field. Where a
field has been replaced by one of another mesh, two names can stand for one id, and the scaling of
the two fields fails. -/
theorem configured_fields_missed :
    (onlyMesh "M" = some ⟨0⟩ ∧ "B" ∈ ((pairCoupling .exclusive).mesh ⟨0⟩).fieldNames ∧
      (ofConfigs true onlyMesh [.scaleByArea .regularPost "M" "B" .multiplyingByArea]
        (pairCoupling .exclusive)).1 = .error (.busy "M")) ∧
      ∃ f r, (Edit.run (.plane "O") Edit.foreignRun).field ⟨0⟩ = .ok f ∧
        let c := (pairCoupling .free).edit ⟨0⟩ (.putField ⟨1⟩ f)
        let configs := [.scaleByDt .regularPost "M" "A" "X" .byDt]
        (ofConfigs true onlyMesh configs c).1 = .ok r ∧
          (r.perform .regularPost default c).answer =
            .error (.refused (.mesh (.aliasedField ⟨0⟩))) ∧
          (carryOutAll onlyMesh default configs c).1 = .ok () := by
  refine ⟨⟨rfl, ?_, rfl⟩, ⟨⟨0⟩, "X", 1, [0.0, 0.0], true⟩, _, rfl, rfl, rfl, rfl⟩
  decide

end Registry

end FieldMesh

import FieldMesh.Proofs.Sound

/-! # Refused edits

Whether an edit is refused, and for what, depends on its arguments and on the mesh alone. Corners
and the vertices of a group are looked at from left to right and the first one at fault is
reported. A refused edit leaves the whole mesh as it was.
-/

namespace FieldMesh

theorem Edited.answer_guarded_ne_refused {α : Type} (m : Mesh) (context : String) (a : α)
    (x : MeshError) : (Edited.guarded m context a).answer ≠ .error (.refused x) := by
  unfold Edited.guarded Mesh.assert
  cases m.validate with
  | ok u => exact nofun
  | error e => cases e <;> exact nofun

namespace Mesh

variable {m : Mesh} {vs : List VertexId} {x : MeshError}

/-- The first corner at fault: those in front of it are live and distinct, and it is not live or
else one of them. -/
inductive BadCorner (m : Mesh) (corners : List VertexId) : MeshError → Prop
  | unknown {before after : List VertexId} {v : VertexId} (split : corners = before ++ v :: after)
      (spanned : m.Spans before) (missing : v ∉ m.ids) : BadCorner m corners (.unknownVertex v)
  | repeated {before after : List VertexId} {v : VertexId} (split : corners = before ++ v :: after)
      (spanned : m.Spans before) (seen : v ∈ before) : BadCorner m corners (.degenerate v)

theorem field_eq_error_iff {d : FieldId} :
    m.field d = .error x ↔ m.fields.length ≤ d.raw ∧ x = .unknownField d := by
  unfold Mesh.field
  rw [← List.getElem?_eq_none_iff]
  cases m.fields[d.raw]? <;> simp [eq_comm]

theorem checkCorners_cons (seen : List VertexId) (v : VertexId) (vs : List VertexId) :
    m.checkCorners seen (v :: vs) =
      if m.isLive v then
        if seen.contains v then .error (.degenerate v) else m.checkCorners (seen ++ [v]) vs
      else .error (.unknownVertex v) := rfl

theorem checkCorners_append_of_ok {seen before after : List VertexId}
    (passed : m.checkCorners seen before = .ok ()) :
    m.checkCorners seen (before ++ after) = m.checkCorners (seen ++ before) after := by
  induction before generalizing seen with
  | nil => rw [List.nil_append, List.append_nil]
  | cons v before ih =>
    rw [checkCorners_cons] at passed
    rw [List.cons_append, checkCorners_cons]
    split at passed
    · split at passed
      · exact nomatch passed
      · rename_i hlive hseen
        rw [if_pos hlive, if_neg hseen, ih passed, List.append_assoc, List.singleton_append]
    · exact nomatch passed

namespace Indexed

/-- The induction follows the corners that have passed so far. -/
theorem badCorner_of_error (h : m.Indexed) {before : List VertexId} (spanned : m.Spans before)
    (herror : m.checkCorners before vs = .error x) : m.BadCorner (before ++ vs) x := by
  induction vs generalizing before with
  | nil => exact nomatch herror
  | cons v vs ih =>
    rw [checkCorners_cons] at herror
    by_cases hlive : m.isLive v = true
    · rw [if_pos hlive] at herror
      by_cases hseen : before.contains v = true
      · rw [if_pos hseen] at herror
        cases herror
        exact .repeated rfl spanned (List.contains_iff_mem.mp hseen)
      · rw [if_neg hseen] at herror
        have hnew : v ∉ before := fun hv => hseen (List.contains_iff_mem.mpr hv)
        have spanned' : m.Spans (before ++ [v]) := by
          refine ⟨List.concat_eq_append ▸ spanned.1.concat hnew, ?_⟩
          rw [List.forall_mem_append, List.forall_mem_singleton]
          exact ⟨spanned.2, h.isLive_iff.mp hlive⟩
        have hbad := ih spanned' herror
        rwa [List.append_assoc, List.singleton_append] at hbad
    · rw [if_neg hlive] at herror
      cases herror
      exact .unknown rfl spanned fun hv => hlive (h.isLive_iff.mpr hv)

theorem checkCorners_eq_error_iff (h : m.Indexed) :
    m.checkCorners [] vs = .error x ↔ m.BadCorner vs x := by
  have passed : ∀ before, m.Spans before → m.checkCorners [] before = .ok () := fun before hb =>
    checkCorners_eq_ok_iff.mpr
      ⟨fun v hv => ⟨h.isLive_iff.mpr (hb.2 v hv), List.not_mem_nil⟩, hb.1⟩
  constructor
  · have spanned : m.Spans [] := ⟨List.nodup_nil, nofun⟩
    exact h.badCorner_of_error spanned
  · intro hbad
    cases hbad with
    | unknown split spanned missing =>
      rw [split, checkCorners_append_of_ok (passed _ spanned)]
      exact if_neg fun hlive => missing (h.isLive_iff.mp hlive)
    | repeated split spanned seen =>
      rw [split, checkCorners_append_of_ok (passed _ spanned)]
      exact (if_pos (h.isLive_iff.mpr (spanned.2 _ seen))).trans
        (if_pos (List.contains_iff_mem.mpr seen))

theorem selectAll_eq_error_iff (h : m.Indexed) {chosen : List VertexId} :
    m.selectAll chosen vs = .error x ↔
      ∃ v, vs.find? (fun v => !m.ids.contains v) = some v ∧ x = .unknownVertex v := by
  induction vs generalizing chosen with
  | nil => simp [selectAll]
  | cons v vs ih =>
    unfold selectAll
    by_cases hv : v ∈ m.ids
    · rw [if_pos (h.isLive_iff.mpr hv), ih, List.find?_cons_of_neg (by simpa using hv)]
    · rw [if_neg fun hlive => hv (h.isLive_iff.mp hlive), List.find?_cons_of_pos (by simpa using hv)]
      simp [eq_comm]

end Indexed

end Mesh

namespace Edit

open Mesh

/-- What refuses an edit, and for what. -/
inductive Refuses (m : Mesh) : Edit → MeshError → Prop
  | createVertex {cs : List Float} (count : cs.length ≠ m.dimensions) :
      Refuses m (.createVertex cs) (.coordinateCount m.dimensions cs.length)
  | moveVertex {v : VertexId} {cs : List Float} (count : cs.length ≠ m.dimensions) :
      Refuses m (.moveVertex v cs) (.coordinateCount m.dimensions cs.length)
  | moveUnknown {v : VertexId} {cs : List Float} (count : cs.length = m.dimensions)
      (missing : v ∉ m.ids) : Refuses m (.moveVertex v cs) (.unknownVertex v)
  | removeVertex {v : VertexId} (missing : v ∉ m.ids) :
      Refuses m (.removeVertex v) (.unknownVertex v)
  | createEdge {a b : VertexId} {x : MeshError} (bad : m.BadCorner [a, b] x) :
      Refuses m (.createEdge a b) x
  | createTriangle {a b c : VertexId} {x : MeshError} (bad : m.BadCorner [a, b, c] x) :
      Refuses m (.createTriangle a b c) x
  | noComponents {name : String} : Refuses m (.createField name 0) (.noComponents name)
  | fieldTaken {name : String} {n : Nat} (hn : n ≠ 0) (taken : name ∈ m.fields.map (·.name)) :
      Refuses m (.createField name n) (.duplicateName m.name name)
  | groupTaken {name : String} {vs : List VertexId}
      (taken : name ∈ m.name :: m.groups.map (·.name)) :
      Refuses m (.createGroup name vs) (.duplicateName m.name name)
  | groupUnknown {name : String} {vs : List VertexId} {v : VertexId}
      (free : name ∉ m.name :: m.groups.map (·.name))
      (first : vs.find? (fun v => !m.ids.contains v) = some v) :
      Refuses m (.createGroup name vs) (.unknownVertex v)
  | setValues {d : FieldId} {xs : List Float} (missing : m.fields.length ≤ d.raw) :
      Refuses m (.setValues d xs) (.unknownField d)
  | setRow {d : FieldId} {slot : Nat} {xs : List Float} (missing : m.fields.length ≤ d.raw) :
      Refuses m (.setRow d slot xs) (.unknownField d)
  | putField {d : FieldId} {f : Field} (missing : m.fields.length ≤ d.raw) :
      Refuses m (.putField d f) (.unknownField d)

variable {m : Mesh} {e : Edit} {x : MeshError}

/-- A refusal says nothing but its cause, and the mesh stays as it was. -/
theorem Refuses.apply_eq (h : m.Wired) (hx : e.Refuses m x) :
    e.apply m = ⟨.error (.refused x), m⟩ := by
  cases hx with
  | createVertex count =>
    have hc := h.coords_eq_error_iff.mpr ⟨count, rfl⟩
    simp only [Edit.apply, Mesh.createVertex, hc]
    rfl
  | moveVertex count =>
    have hc := h.coords_eq_error_iff.mpr ⟨count, rfl⟩
    simp only [Edit.apply, Mesh.moveVertex, hc]
    rfl
  | @moveUnknown v cs count missing =>
    have hs := h.slot_eq_none_iff.mpr missing
    cases hc : m.coords cs with
    | error y => exact absurd count (h.coords_eq_error_iff.mp hc).1
    | ok c =>
      simp only [Edit.apply, Mesh.moveVertex, hc, hs]
      rfl
  | removeVertex missing =>
    have hs := h.slot_eq_none_iff.mpr missing
    simp only [Edit.apply, Mesh.removeVertex, hs]
    rfl
  | createEdge bad =>
    have hcorners := h.checkCorners_eq_error_iff.mpr bad
    simp only [Edit.apply, Mesh.createEdge, hcorners]
    rfl
  | createTriangle bad =>
    have hcorners := h.checkCorners_eq_error_iff.mpr bad
    simp only [Edit.apply, Mesh.createTriangle, hcorners]
    rfl
  | noComponents => rfl
  | @fieldTaken name n hn taken =>
    have hany : m.fields.any (·.name == name) = true := any_name_iff.mpr taken
    simp only [Edit.apply, Mesh.createField, if_neg hn, if_pos hany]
    rfl
  | groupTaken taken =>
    simp only [Edit.apply, Mesh.createGroup, if_pos (hasEntry_iff.mpr taken)]
    rfl
  | groupUnknown free first =>
    have hs : m.selectAll [] _ = .error (.unknownVertex _) :=
      h.selectAll_eq_error_iff.mpr ⟨_, first, rfl⟩
    simp only [Edit.apply, Mesh.createGroup, if_neg (mt hasEntry_iff.mp free), hs]
    rfl
  | setValues missing =>
    have hd := field_eq_error_iff.mpr ⟨missing, rfl⟩
    simp only [Edit.apply, Mesh.setValues, hd]
    rfl
  | setRow missing =>
    have hd := field_eq_error_iff.mpr ⟨missing, rfl⟩
    simp only [Edit.apply, Mesh.setRow, hd]
    rfl
  | putField missing =>
    have hd := field_eq_error_iff.mpr ⟨missing, rfl⟩
    simp only [Edit.apply, Mesh.putField, hd]
    rfl

theorem refuses_of_refused (h : m.Wired) (hx : (e.apply m).answer = .error (.refused x)) :
    e.Refuses m x := by
  cases e with
  | createVertex cs =>
    rcases m.createVertex_cases cs with
      ⟨y, hc, heq⟩ | ⟨c, _, ⟨_, heq⟩ | ⟨_, _, _, _, _, _, _, heq⟩⟩ <;>
      simp only [Edit.apply, heq] at hx
    · obtain ⟨count, rfl⟩ := h.coords_eq_error_iff.mp hc
      cases hx
      exact .createVertex count
    · cases hx
    · cases hx
  | moveVertex v cs =>
    simp only [Edit.apply, Mesh.moveVertex] at hx
    split at hx
    · rename_i y hc
      obtain ⟨count, rfl⟩ := h.coords_eq_error_iff.mp hc
      cases hx
      exact .moveVertex count
    · rename_i c hc
      split at hx
      · rename_i hs
        cases hx
        refine .moveUnknown ?_ (h.slot_eq_none_iff.mp hs)
        obtain ⟨hlist, hdimensions⟩ := coords_eq_ok hc
        rw [← hlist, Coords.length_toList, hdimensions]
      · cases hx
  | removeVertex v =>
    rcases m.removeVertex_cases v with ⟨hs, heq⟩ | ⟨slot, _, heq | ⟨_, _, _, _, _, heq⟩⟩ <;>
      simp only [Edit.apply, heq] at hx
    · cases hx
      exact .removeVertex (h.slot_eq_none_iff.mp hs)
    · exact absurd hx (Edited.answer_guarded_ne_refused _ _ _ _)
    · cases hx
  | createEdge a b =>
    simp only [Edit.apply, Mesh.createEdge] at hx
    split at hx
    · rename_i y hcorners
      cases hx
      exact .createEdge (h.checkCorners_eq_error_iff.mp hcorners)
    · cases hx
  | createTriangle a b c =>
    simp only [Edit.apply, Mesh.createTriangle] at hx
    split at hx
    · rename_i y hcorners
      cases hx
      exact .createTriangle (h.checkCorners_eq_error_iff.mp hcorners)
    · cases hx
  | createField name n =>
    simp only [Edit.apply, Mesh.createField] at hx
    split at hx
    · rename_i hn
      cases hx
      rw [hn]
      exact .noComponents
    · rename_i hn
      split at hx
      · rename_i hany
        cases hx
        exact .fieldTaken hn (any_name_iff.mp hany)
      · cases hx
  | allocate =>
    rcases m.allocate_cases with ⟨_, heq⟩ | ⟨_, _, _, _, _, _, heq⟩ <;>
      simp only [Edit.apply, heq] at hx
    · exact absurd hx (Edited.answer_guarded_ne_refused _ _ _ _)
    · cases hx
  | createGroup name vs =>
    simp only [Edit.apply, Mesh.createGroup] at hx
    split at hx
    · rename_i hname
      cases hx
      exact .groupTaken (hasEntry_iff.mp hname)
    · rename_i hname
      split at hx
      · rename_i y hs
        obtain ⟨v, first, rfl⟩ := h.selectAll_eq_error_iff.mp hs
        cases hx
        exact .groupUnknown (mt hasEntry_iff.mpr hname) first
      · exact absurd hx (Edited.answer_guarded_ne_refused _ _ _ _)
  | setValues d xs =>
    simp only [Edit.apply, Mesh.setValues] at hx
    split at hx
    · rename_i y hd
      obtain ⟨missing, rfl⟩ := field_eq_error_iff.mp hd
      cases hx
      exact .setValues missing
    · cases hx
  | setRow d slot xs =>
    simp only [Edit.apply, Mesh.setRow] at hx
    split at hx
    · rename_i y hd
      obtain ⟨missing, rfl⟩ := field_eq_error_iff.mp hd
      cases hx
      exact .setRow missing
    · split at hx <;> cases hx
  | putField d f =>
    simp only [Edit.apply, Mesh.putField] at hx
    split at hx
    · rename_i y hd
      obtain ⟨missing, rfl⟩ := field_eq_error_iff.mp hd
      cases hx
      exact .putField missing
    · cases hx

/-- On a wired mesh an edit is refused exactly for what refuses it. -/
theorem refused_iff (h : m.Wired) :
    (e.apply m).answer = .error (.refused x) ↔ e.Refuses m x :=
  ⟨refuses_of_refused h, fun hx => by rw [hx.apply_eq h]⟩

/-- At every point of a run from an empty mesh, an edit that needs no length beyond its range takes
its whole effect, or it is refused and the whole mesh stays as it was. It is refused exactly for
what refuses it. -/
theorem all_or_nothing_of_run {name : String} {dimensions : Nat} {start : Mesh}
    (created : Mesh.new? name dimensions = .ok start) {es : List Edit}
    (calls : Along Affordable start es) {e : Edit} (last : Affordable (run start es) e)
    (no_row : ∀ d slot xs, e ≠ .setRow d slot xs) :
    ((∃ n, e.Effect (run start es) n ∧ e.apply (run start es) = ⟨.ok (), n⟩) ∨
        ∃ x, e.apply (run start es) = ⟨.error (.refused x), run start es⟩) ∧
      ∀ x, (e.apply (run start es)).answer = .error (.refused x) ↔
        e.Refuses (run start es) x := by
  have sound : (run start es).Sound := (Sound.of_new created).run_of_affordable calls
  refine ⟨?_, fun x => refused_iff sound.toWired⟩
  cases sound.settles_of_affordable last with
  | refused heq => exact .inr ⟨_, heq⟩
  | stopped hrow heq =>
    obtain ⟨d, slot, xs, rfl⟩ := hrow
    exact absurd rfl (no_row d slot xs)
  | succeeded heffect heq => exact .inl ⟨_, heffect, heq⟩

/-- A removed corner comes in front of a repeated one. -/
theorem all_or_nothing_of_run_mixedRun :
    Mesh.new? "M" 2 = .ok (.plane "M") ∧ Along Affordable (.plane "M") mixedRun ∧
      ((createTriangle ⟨2⟩ ⟨1⟩ ⟨2⟩).apply (run (.plane "M") mixedRun)).answer =
        .error (.refused (.unknownVertex ⟨1⟩)) ∧
      Refuses (run (.plane "M") mixedRun) (createTriangle ⟨2⟩ ⟨1⟩ ⟨2⟩) (.unknownVertex ⟨1⟩) := by
  have calls : Along Affordable (.plane "M") mixedRun := by decide +kernel
  have answer : ((createTriangle ⟨2⟩ ⟨1⟩ ⟨2⟩).apply (run (.plane "M") mixedRun)).answer =
      .error (.refused (.unknownVertex ⟨1⟩)) := rfl
  have cause := (all_or_nothing_of_run (Mesh.new_plane "M") calls
    (e := createTriangle ⟨2⟩ ⟨1⟩ ⟨2⟩) trivial nofun).2
  exact ⟨rfl, calls, answer, (cause _).mp answer⟩

end Edit

end FieldMesh

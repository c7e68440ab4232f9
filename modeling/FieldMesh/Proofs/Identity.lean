import FieldMesh.Proofs.Refusals
import FieldMesh.Proofs.Selections
import FieldMesh.Proofs.Walks

/-! # Identity of vertices over runs

A vertex is known by its id from the call that made it to the call that removes it, and no other
vertex has that id before or after. The ids that a run hands out are counted from zero; what it
leaves in the mesh are those of them that were not removed, in the order in which they were made,
and nothing in the mesh mentions any other.
-/

namespace FieldMesh

namespace Mesh

/-- Where an id can be met in a mesh: among the vertices and their slots, as a corner of an
element, in a group, or in what a cursor over a view of the mesh reads. -/
inductive Mentions (m : Mesh) (v : VertexId) : Prop
  | listed (h : v ∈ m.ids)
  | placed {slot : Nat} (h : m.slot? v = some slot)
  | found {u : Vertex} (h : m.vertex? v = some u)
  | edge {e : Edge} (he : e ∈ m.edges) (hv : v ∈ e.corners)
  | triangle {t : Triangle} (ht : t ∈ m.triangles) (hv : v ∈ t.corners)
  | selected {g : Group} (hg : g ∈ m.groups) (hv : v ∈ g.selection)
  | member {g : Group} (hg : g ∈ m.groups) (hv : g.contains v = true)
  | read {k : Kind} {c : Cursor k} {p : Place} {s : Snapshot} (hp : c.place = some p)
      (hw : m.Shows p.handle.view) (hs : c.get? = some s) (hv : v ∈ s.corners.map (·.id))

variable {m : Mesh} {v : VertexId}

theorem Indexed.isSome_vertex?_iff (h : m.Indexed) : (m.vertex? v).isSome = true ↔ v ∈ m.ids := by
  constructor
  · intro hv
    obtain ⟨u, hu⟩ := Option.isSome_iff_exists.mp hv
    obtain ⟨hmem, rfl⟩ := h.vertex?_eq_some hu
    exact List.mem_map.mpr ⟨u, hmem, rfl⟩
  · intro hv
    obtain ⟨c, hc, _⟩ := h.corner_of_live hv
    obtain ⟨u, hu, _⟩ := Option.map_eq_some_iff.mp hc
    exact Option.isSome_iff_exists.mpr ⟨u, hu⟩

theorem Indexed.isSome_slot?_iff (h : m.Indexed) : (m.slot? v).isSome = true ↔ v ∈ m.ids := by
  rw [h.mem_ids_iff, Option.isSome_iff_exists]
  rfl

/-- A wired mesh mentions its vertices and nothing else. -/
theorem Wired.mentions_iff (h : m.Wired) : m.Mentions v ↔ v ∈ m.ids := by
  refine ⟨fun hv => ?_, .listed⟩
  cases hv with
  | listed hv => exact hv
  | placed hs => exact h.isSome_slot?_iff.mp (Option.isSome_iff_exists.mpr ⟨_, hs⟩)
  | found hu => exact h.isSome_vertex?_iff.mp (Option.isSome_iff_exists.mpr ⟨_, hu⟩)
  | edge he hv => exact (h.edges_span _ he).2 v hv
  | triangle ht hv => exact (h.triangles_span _ ht).2 v hv
  | selected hg hv => exact (h.groups_follow _ hg).live v hv
  | member hg hv =>
    have hfollows := h.groups_follow _ hg
    exact hfollows.live v ((Group.contains_iff hfollows.members).mp hv)
  | @read k c p s hp hw hs hv =>
    -- What is read depicts stored ids, each by the one vertex that has it.
    have hfetch : p.handle.view.fetch k p.position = some s := by
      rwa [Cursor.get?, hp] at hs
    have hcount : p.position < p.handle.view.count k :=
      ((h.complete hw k).isSome_fetch_iff _).mp (Option.isSome_iff_exists.mpr ⟨s, hfetch⟩)
    obtain ⟨s', _, hs', _, _, hplaces⟩ := h.fetch_of_lt hw hcount
    cases hfetch.symm.trans hs'
    obtain ⟨corner, hcorner, rfl⟩ := List.mem_map.mp hv
    have hmem := ((hplaces corner hcorner) ⟨corner.id, corner.coords⟩).mpr rfl
    exact List.mem_map.mpr ⟨_, hmem.1, rfl⟩

end Mesh

namespace Edit

def makesVertex : Edit → Bool
  | createVertex _ => true
  | _ => false

/-- A call that stops at no offset beyond the range of lengths and, if it makes a vertex, has the
memory for its rows. -/
def Unhindered (m : Mesh) (e : Edit) : Prop :=
  InRange m e ∧ (e.makesVertex = true → (e.apply m).fault? ≠ some .capacity)

instance (m : Mesh) (e : Edit) : Decidable (Unhindered m e) :=
  inferInstanceAs (Decidable (_ ∧ (_ → _)))

/-- The id that a call hands out, if it makes a vertex and succeeds. -/
def made? (m : Mesh) : Edit → Option VertexId
  | createVertex cs => (m.createVertex cs).answer.toOption
  | _ => none

/-- The vertex that a call takes away, unless the call is refused. -/
def taken? (m : Mesh) (e : Edit) : Option VertexId :=
  match (e.apply m).answer with
  | .error (.refused _) => none
  | _ => e.removed?

def created (m : Mesh) : List Edit → List VertexId
  | [] => []
  | e :: es => (e.made? m).toList ++ created (e.apply m).mesh es

def taken (m : Mesh) : List Edit → List VertexId
  | [] => []
  | e :: es => (e.taken? m).toList ++ taken (e.apply m).mesh es

variable {m n : Mesh} {e : Edit} {es : List Edit}

/-- Only making and removing a vertex change which ids there are. -/
theorem Reshapes.same_ids (he : Reshapes m e n) (hmakes : e.makesVertex = false)
    (hremoved : e.removed? = none) : n.ids = m.ids ∧ n.nextId = m.nextId := by
  cases he with
  | createVertex _ _ => exact nomatch hmakes
  | removeVertex _ _ => exact nomatch hremoved
  | moveVertex _ _ => exact ⟨m.ids_withCoords _ _, rfl⟩
  | kept _ _ | createEdge _ | createTriangle _ | createGroup _ _ => exact ⟨rfl, rfl⟩

theorem createVertex_of_unhindered {cs : List Float} (he : Unhindered m (.createVertex cs)) :
    (made? m (.createVertex cs) = none ∧ ((createVertex cs).apply m).mesh = m) ∨
      ∃ c, made? m (.createVertex cs) = some ⟨m.nextId⟩ ∧
        ((createVertex cs).apply m).mesh = m.withVertex c := by
  rcases m.createVertex_cases cs with
    ⟨_, _, heq⟩ | ⟨c, _, ⟨_, heq⟩ | ⟨_, f, _, k, _, _, hk, heq⟩⟩
  · exact .inl ⟨by rw [made?, heq]; rfl, by simp only [Edit.apply, heq]; rfl⟩
  · exact .inr ⟨c, by rw [made?, heq]; rfl, by simp only [Edit.apply, heq]; rfl⟩
  · have hfault : ((createVertex cs).apply m).fault? = some k := by
      simp only [Edit.apply, heq]
      rfl
    rcases Field.resize_eq_error hk with rfl | rfl
    · exact absurd hfault he.1
    · exact absurd hfault (he.2 rfl)

theorem removeVertex_of_inRange {v : VertexId} (he : InRange m (.removeVertex v)) :
    (taken? m (.removeVertex v) = none ∧ ((removeVertex v).apply m).mesh = m) ∨
      ∃ slot, m.slots[v]? = some slot ∧ taken? m (.removeVertex v) = some v ∧
        ((removeVertex v).apply m).mesh = m.withoutVertex v slot := by
  rcases m.removeVertex_cases v with ⟨_, heq⟩ | ⟨slot, hs, heq | ⟨_, _, _, _, _, heq⟩⟩
  · exact .inl ⟨by simp only [taken?, Edit.apply, heq]; rfl, by simp only [Edit.apply, heq]; rfl⟩
  · refine .inr ⟨slot, hs, ?_, by simp only [Edit.apply, heq]; rfl⟩
    have hanswer : ∀ x, ((removeVertex v).apply m).answer ≠ .error (.refused x) := by
      intro x
      simp only [Edit.apply, heq]
      exact Edited.answer_guarded_ne_refused _ _ _ x
    unfold taken?
    split
    · rename_i x hx
      exact absurd hx (hanswer x)
    · rfl
  · exact absurd (by simp only [Edit.apply, heq, Edited.fault?]) he

theorem made?_of_makesVertex (h : e.makesVertex = false) : e.made? m = none := by
  cases e with
  | createVertex cs => exact nomatch h
  | _ => rfl

theorem taken?_of_removed? (h : e.removed? = none) : e.taken? m = none := by
  unfold taken?
  split
  · rfl
  · exact h

end Edit

/-- What has been made and taken so far accounts for the ids of a mesh: the made ones are counted
up to the next id, and the mesh keeps those that were not taken. -/
structure Mesh.Recounts (m : Mesh) (made taken : List VertexId) : Prop where
  counted : made = (List.range m.nextId).map VertexId.mk
  taken_made : ∀ v ∈ taken, v ∈ made
  ids : m.ids = made.filter fun v => !taken.contains v

namespace Mesh.Recounts

open Edit

variable {m n : Mesh} {e : Edit} {es : List Edit} {made taken : List VertexId} {v : VertexId}

theorem mem_made_iff (h : m.Recounts made taken) : v ∈ made ↔ v.raw < m.nextId := by
  rw [h.counted, List.mem_map]
  constructor
  · rintro ⟨i, hi, rfl⟩
    exact List.mem_range.mp hi
  · exact fun hv => ⟨v.raw, List.mem_range.mpr hv, rfl⟩

theorem mem_ids_iff (h : m.Recounts made taken) : v ∈ m.ids ↔ v ∈ made ∧ v ∉ taken := by
  rw [h.ids, List.mem_filter]
  simp

theorem of_same_ids (h : m.Recounts made taken) (hids : n.ids = m.ids)
    (hnext : n.nextId = m.nextId) : n.Recounts made taken :=
  ⟨hnext ▸ h.counted, h.taken_made, hids ▸ h.ids⟩

theorem withVertex (h : m.Recounts made taken) (c : Coords) :
    (m.withVertex c).Recounts (made ++ [⟨m.nextId⟩]) taken where
  counted := by
    change _ = (List.range (m.nextId + 1)).map VertexId.mk
    rw [List.range_succ, List.map_append, ← h.counted]
    rfl
  taken_made := fun v hv => List.mem_append_left _ (h.taken_made v hv)
  ids := by
    have hfresh : (⟨m.nextId⟩ : VertexId) ∉ taken := fun hmem =>
      Nat.lt_irrefl _ (h.mem_made_iff.mp (h.taken_made _ hmem))
    change (m.grown c).ids = _
    rw [ids_grown, List.filter_append, ← h.ids]
    simp [hfresh]

theorem withoutVertex (h : m.Recounts made taken) (hm : m.Indexed) {slot : Nat}
    (hs : m.slots[v]? = some slot) : (m.withoutVertex v slot).Recounts made (taken ++ [v]) where
  counted := h.counted
  taken_made := by
    have hv : v ∈ made := (h.mem_ids_iff.mp (hm.mem_ids_iff.mpr ⟨slot, hs⟩)).1
    intro w hw
    rcases List.mem_append.mp hw with hw | hw
    · exact h.taken_made w hw
    · exact List.mem_singleton.mp hw ▸ hv
  ids := by
    change (m.pruned v slot).ids = _
    rw [hm.ids_pruned hs, h.ids, List.filter_filter]
    refine List.filter_congr fun w _ => ?_
    simp [Bool.and_comm]

theorem apply (h : m.Recounts made taken) (hm : m.Indexed) (he : Unhindered m e) :
    (e.apply m).mesh.Recounts (made ++ (e.made? m).toList) (taken ++ (e.taken? m).toList) := by
  cases hmakes : e.makesVertex with
  | true =>
    obtain ⟨cs, rfl⟩ : ∃ cs, e = .createVertex cs := by
      cases e with
      | createVertex cs => exact ⟨cs, rfl⟩
      | _ => exact nomatch hmakes
    rw [taken?_of_removed? rfl, Option.toList_none, List.append_nil]
    rcases createVertex_of_unhindered he with ⟨hmade, hmesh⟩ | ⟨c, hmade, hmesh⟩
    · rw [hmade, hmesh, Option.toList_none, List.append_nil]
      exact h
    · rw [hmade, hmesh]
      exact h.withVertex c
  | false =>
    rw [made?_of_makesVertex hmakes, Option.toList_none, List.append_nil]
    cases hremoved : e.removed? with
    | none =>
      obtain ⟨hids, hnext⟩ := (reshapes_apply he.1).same_ids hmakes hremoved
      rw [taken?_of_removed? hremoved, Option.toList_none, List.append_nil]
      exact h.of_same_ids hids hnext
    | some v =>
      obtain rfl : e = .removeVertex v := by
        cases e with
        | removeVertex w => exact congrArg _ (Option.some.inj hremoved)
        | _ => exact nomatch hremoved
      rcases removeVertex_of_inRange he.1 with ⟨htaken, hmesh⟩ | ⟨slot, hs, htaken, hmesh⟩
      · rw [htaken, hmesh, Option.toList_none, List.append_nil]
        exact h
      · rw [htaken, hmesh]
        exact h.withoutVertex hm hs

theorem run (h : m.Recounts made taken) (hm : m.Wired) (calls : Along Unhindered m es) :
    (Edit.run m es).Recounts (made ++ created m es) (taken ++ Edit.taken m es) := by
  induction es generalizing m made taken with
  | nil => simpa [created, Edit.taken] using h
  | cons e es ih =>
    have hrest := ih (h.apply hm.toIndexed calls.1) (hm.reshaped (reshapes_apply calls.1.1)) calls.2
    simpa only [created, Edit.taken, run_cons, List.append_assoc] using hrest

theorem of_new {name : String} {dimensions : Nat} (h : Mesh.new? name dimensions = .ok m) :
    m.Recounts [] [] := by
  obtain ⟨_, rfl⟩ := new_eq_ok_iff.mp h
  exact ⟨rfl, nofun, rfl⟩

theorem ids_ascending (h : m.Recounts made taken) : m.ids.Pairwise fun v w => v.raw < w.raw := by
  rw [h.ids]
  refine List.Pairwise.filter _ ?_
  rw [h.counted, List.pairwise_map]
  exact List.pairwise_lt_range

end Mesh.Recounts

namespace Edit

/-- The ids of a run from an empty mesh. The calls that make a vertex hand out the ids from zero on
without a gap; at every point of the run the vertices are those made and not removed, in the order
in which they were made; exactly these are found, have a slot or are mentioned anywhere; and what
was removed stays away, whatever calls come after: its id is not handed out again, and nothing
mentions it. -/
theorem ids_of_run {name : String} {dimensions : Nat} {m : Mesh}
    (fresh : Mesh.new? name dimensions = .ok m) {es : List Edit}
    (calls : Along Unhindered m es) :
    created m es = (List.range (created m es).length).map VertexId.mk ∧
    (run m es).ids = (created m es).filter (fun v => !(taken m es).contains v) ∧
    (run m es).ids.Pairwise (fun v w => v.raw < w.raw) ∧
    (∀ v, ((run m es).vertex? v).isSome = true ↔ v ∈ created m es ∧ v ∉ taken m es) ∧
    (∀ v, ((run m es).slot? v).isSome = true ↔ v ∈ created m es ∧ v ∉ taken m es) ∧
    (∀ v, (run m es).Mentions v ↔ v ∈ created m es ∧ v ∉ taken m es) ∧
    ∀ later, Along Unhindered (run m es) later → ∀ v ∈ taken m es,
      v ∉ created (run m es) later ∧ ¬ (run (run m es) later).Mentions v := by
  have inRange : ∀ {n : Mesh} {ds : List Edit}, n.Wired → Along Unhindered n ds →
      Along InRange n ds := fun hn hds =>
    Along.mono_of_invariant (I := Mesh.Wired) (fun _ _ h he => h.reshaped (reshapes_apply he.1))
      (fun _ _ _ he => he.1) hn hds
  have start : m.Wired := .of_new fresh
  have hwired : (run m es).Wired := start.run (inRange start calls)
  have account : (run m es).Recounts (created m es) (taken m es) :=
    (Mesh.Recounts.of_new fresh).run start calls
  refine ⟨?_, account.ids, account.ids_ascending,
    fun v => hwired.isSome_vertex?_iff.trans account.mem_ids_iff,
    fun v => hwired.isSome_slot?_iff.trans account.mem_ids_iff,
    fun v => hwired.mentions_iff.trans account.mem_ids_iff, ?_⟩
  · have hlength : (created m es).length = (run m es).nextId := by
      rw [account.counted, List.length_map, List.length_range]
    rw [hlength]
    exact account.counted
  · intro later hlater v hv
    have hends : (run (run m es) later).Wired := hwired.run (inRange hwired hlater)
    have extended := account.run hwired hlater
    refine ⟨fun hmade => ?_, fun hmention => ?_⟩
    · -- The ids of the whole run are distinct, and `v` is one of the first part.
      have hnodup : (created m es ++ created (run m es) later).Nodup := by
        rw [extended.counted]
        exact List.nodup_range.map fun _ _ => congrArg VertexId.raw
      exact (List.nodup_append.mp hnodup).2.2 v (account.taken_made v hv) v hmade rfl
    · have hkept := extended.mem_ids_iff.mp (hends.mentions_iff.mp hmention)
      exact hkept.2 (List.mem_append_left _ hv)

/-- The id of the vertex removed in the run is not used for the one made after it, and removing it
once more is refused. -/
theorem ids_of_run_mixedRun :
    Mesh.new? "M" 2 = .ok (.plane "M") ∧ Along Unhindered (.plane "M") mixedRun ∧
      created (.plane "M") mixedRun = [⟨0⟩, ⟨1⟩, ⟨2⟩, ⟨3⟩] ∧
      taken (.plane "M") mixedRun = [⟨1⟩] ∧
      (run (.plane "M") mixedRun).ids = [⟨0⟩, ⟨2⟩, ⟨3⟩] ∧
      ¬ (run (.plane "M") mixedRun).Mentions ⟨1⟩ ∧
      ∀ later, Along Unhindered (run (.plane "M") mixedRun) later →
        ¬ (run (run (.plane "M") mixedRun) later).Mentions ⟨1⟩ := by
  have calls : Along Unhindered (.plane "M") mixedRun := by decide +kernel
  have htaken : taken (.plane "M") mixedRun = [⟨1⟩] := rfl
  obtain ⟨_, _, _, _, _, hmentions, hlater⟩ := ids_of_run (Mesh.new_plane "M") calls
  refine ⟨rfl, calls, rfl, htaken, rfl, fun h => ?_, fun later hcalls => ?_⟩
  · exact ((hmentions _).mp h).2 (htaken ▸ List.mem_singleton.mpr rfl)
  · exact (hlater later hcalls _ (htaken ▸ List.mem_singleton.mpr rfl)).2

end Edit

end FieldMesh

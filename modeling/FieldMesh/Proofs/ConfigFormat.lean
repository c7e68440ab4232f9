import FieldMesh.Config.Basic
import FieldMesh.Proofs.Validation
import Mathlib.Data.List.Induction
import Mathlib.Logic.Relation

/-! # The format of configurations

A configuration that is written is read again as it was, from the object as from the list of its
fields. What an object says beyond the fields of its kind makes no difference, and what may be left
out may be written as it is understood when it is absent.
-/

namespace FieldMesh

namespace Json

variable {key other : String} {value : Json} {entries sorted : List (String × Json)}

theorem lookup_cons_eq (key : String) (value : Json) (entries : List (String × Json))
    (other : String) : ((key, value) :: entries).lookup other =
      if other = key then some value else entries.lookup other := by
  by_cases h : other = key
  · simp [h]
  · rw [List.lookup_cons, beq_false_of_ne h, if_neg h]

theorem lookup_of_mem {e : String × Json} (distinct : (entries.map Prod.fst).Nodup)
    (he : e ∈ entries) : entries.lookup e.1 = some e.2 := by
  induction entries with
  | nil => exact nomatch he
  | cons head rest ih =>
    obtain ⟨hfresh, hrest⟩ := List.nodup_cons.mp distinct
    obtain ⟨k, v⟩ := head
    rw [lookup_cons_eq]
    rcases List.mem_cons.mp he with rfl | he
    · exact if_pos rfl
    · have hmem : e.1 ∈ rest.map Prod.fst := List.mem_map_of_mem he
      have hother : e.1 ≠ k := fun h => hfresh (h ▸ hmem)
      rw [if_neg hother, ih hrest he]

theorem lookup_insertEntry (key : String) (value : Json) (entries : List (String × Json))
    (other : String) : (insertEntry key value entries).lookup other =
      if other = key then some value else entries.lookup other := by
  induction entries with
  | nil => exact lookup_cons_eq key value [] other
  | cons e rest ih =>
    obtain ⟨k, v⟩ := e
    rw [insertEntry]
    split
    · exact lookup_cons_eq key value _ other
    · split
      · rename_i hk
        subst hk
        simp only [lookup_cons_eq]
        split <;> rfl
      · rename_i hk
        rw [lookup_cons_eq, lookup_cons_eq, ih]
        by_cases hother : other = k
        · rw [if_pos hother, if_pos hother, if_neg (hother ▸ Ne.symm hk)]
        · rw [if_neg hother, if_neg hother]

theorem mem_insertEntry {e : String × Json} (h : e ∈ insertEntry key value entries) :
    e = (key, value) ∨ e ∈ entries := by
  induction entries with
  | nil => exact .inl (List.mem_singleton.mp h)
  | cons head rest ih =>
    obtain ⟨k, v⟩ := head
    rw [insertEntry] at h
    split at h
    · exact List.mem_cons.mp h
    · split at h
      · exact (List.mem_cons.mp h).imp id (.tail _)
      · rcases List.mem_cons.mp h with rfl | h
        · exact .inr List.mem_cons_self
        · exact (ih h).imp id (.tail _)

theorem ofEntries_eq (entries : List (String × Json)) :
    ∃ sorted, ofEntries entries = obj sorted ∧ (∀ e ∈ sorted, e ∈ entries) ∧
      ∀ key, sorted.lookup key = entries.reverse.lookup key := by
  refine ⟨_, rfl, ?_, ?_⟩
  · induction entries using List.reverseRecOn with
    | nil => exact nofun
    | append_singleton entries e ih =>
      intro e' he'
      rw [List.foldl_append, List.foldl_cons, List.foldl_nil] at he'
      rcases mem_insertEntry he' with rfl | he'
      · exact List.mem_append_right _ (List.mem_singleton_self _)
      · exact List.mem_append_left _ (ih e' he')
  · intro key
    induction entries using List.reverseRecOn with
    | nil => rfl
    | append_singleton entries e ih =>
      rw [List.foldl_append, List.foldl_cons, List.foldl_nil, lookup_insertEntry, ih,
        List.reverse_append, List.reverse_singleton, List.singleton_append, lookup_cons_eq]

end Json

namespace ConfigKind

variable {k : ConfigKind} {entries : List (String × Json)}

/-- An entry that is no field of a kind, or has a value that the field can have. -/
def Passes (k : ConfigKind) (e : String × Json) : Prop :=
  ∀ check, k.fields.lookup e.1 = some check → check e.2 = .ok ()

theorem checkEntries_eq_ok_iff :
    k.checkEntries entries = .ok () ↔ ∀ e ∈ entries, k.Passes e := by
  unfold checkEntries
  rw [forM_eq_ok_iff]
  refine forall₂_congr fun e _ => ?_
  unfold Passes
  cases h : k.fields.lookup e.1 <;> simp [h]

theorem ofEntries_eq_ok_iff {c : ActionConfig} :
    k.ofEntries entries = .ok c ↔
      (∀ e ∈ entries, k.Passes e) ∧ k.assemble .missingField entries = .ok c := by
  rw [ofEntries, bind_eq_ok_iff, checkEntries_eq_ok_iff]

theorem Passes.of_lookup {key : String} {value : Json} {check : Json → Except ConfigError Unit}
    (hkey : k.fields.lookup key = some check) (hvalue : check value = .ok ()) :
    k.Passes (key, value) := by
  intro check' hcheck
  cases hkey.symm.trans hcheck
  exact hvalue

theorem Passes.of_not_field {e : String × Json} (h : e.1 ∉ k.fields.map Prod.fst) : k.Passes e := by
  have hnone : k.fields.lookup e.1 = none := by
    rw [List.lookup_eq_none_iff]
    intro field hfield
    simpa using fun heq : e.1 = field.1 => h (heq ▸ List.mem_map_of_mem hfield)
  exact fun check hcheck => nomatch hnone.symm.trans hcheck

theorem type_not_field (k : ConfigKind) : "type" ∉ k.fields.map Prod.fst := by
  cases k <;> decide

theorem timing_text (t : Timing) : timing (.str t.text) = .ok t :=
  Json.readChoice_str_name t.ofName?_text

theorem dtScaling_text (s : DtScaling) : Json.readChoice true (.str s.text) = .ok s :=
  Json.readChoice_str_name s.ofName?_text

theorem areaScaling_text (s : AreaScaling) : Json.readChoice true (.str s.text) = .ok s :=
  Json.readChoice_str_name s.ofName?_text

theorem required_insertEntry {α : Type} {absent : String → ConfigError} {key other : String}
    {value : Json} {read : Json → Except ConfigError α} (h : key ≠ other) :
    required absent (Json.insertEntry other value entries) key read =
      required absent entries key read := by
  rw [required, Json.lookup_insertEntry, if_neg h, required]

theorem optional_insertEntry {α : Type} {default : α} {key other : String} {value : Json}
    {read : Json → Except ConfigError α} (h : key ≠ other) :
    optional (Json.insertEntry other value entries) key read default =
      optional entries key read default := by
  rw [optional, Json.lookup_insertEntry, if_neg h, optional]

theorem optional_insertEntry_self {α : Type} {default : α} {key : String} {value : Json}
    {read : Json → Except ConfigError α} (absent : entries.lookup key = none)
    (hread : read value = .ok default) :
    optional (Json.insertEntry key value entries) key read default =
      optional entries key read default := by
  rw [optional, Json.lookup_insertEntry, if_pos rfl, optional, absent]
  exact hread

theorem ofJson_text (k : ConfigKind) : ofJson (.str k.text) = .ok k := by
  have hname : Named.ofName? k.text = some k := by cases k <;> decide
  simp [ofJson, Json.readName, hname]

end ConfigKind

namespace ActionConfig

open ConfigKind (faultsOf optionalName assemble required timing_text dtScaling_text
  areaScaling_text required_insertEntry optional_insertEntry optional_insertEntry_self)

variable {k : ConfigKind} {c : ActionConfig} {entries : List (String × Json)}

theorem keys_entries (c : ActionConfig) : c.entries.map Prod.fst = c.kind.fields.map Prod.fst := by
  cases c <;> rfl

theorem faultsOf_of_read {α : Type} {read : Json → Except ConfigError α} {value : Json} {a : α}
    (h : read value = .ok a) : faultsOf read value = .ok () := by
  rw [faultsOf, h]
  rfl

theorem optionalName_write (name : Option String) :
    optionalName (writeOptional name) = .ok name := by
  cases name <;> rfl

theorem passes_entries (c : ActionConfig) : ∀ e ∈ c.entries, c.kind.Passes e := by
  cases c with
  | scaleByDt timing mesh source target scaling =>
    simp only [entries, List.forall_mem_cons]
    exact ⟨.of_lookup rfl (faultsOf_of_read (timing_text timing)), .of_lookup rfl rfl,
      .of_lookup rfl rfl, .of_lookup rfl rfl,
      .of_lookup rfl (faultsOf_of_read (dtScaling_text scaling)), nofun⟩
  | scaleByArea timing mesh target scaling =>
    simp only [entries, List.forall_mem_cons]
    exact ⟨.of_lookup rfl (faultsOf_of_read (timing_text timing)), .of_lookup rfl rfl,
      .of_lookup rfl rfl,
      .of_lookup rfl (faultsOf_of_read (areaScaling_text scaling)), nofun⟩
  | scripted timing mesh path module source target =>
    simp only [entries, List.forall_mem_cons]
    exact ⟨.of_lookup rfl (faultsOf_of_read (timing_text timing)), .of_lookup rfl rfl,
      .of_lookup rfl rfl, .of_lookup rfl rfl,
      .of_lookup rfl (faultsOf_of_read (optionalName_write source)),
      .of_lookup rfl (faultsOf_of_read (optionalName_write target)), nofun⟩

def taggedEntries (c : ActionConfig) : List (String × Json) :=
  ("type", .str c.kind.text) :: c.entries

theorem nodup_taggedEntries (c : ActionConfig) : (c.taggedEntries.map Prod.fst).Nodup := by
  have hkeys : c.taggedEntries.map Prod.fst = "type" :: c.kind.fields.map Prod.fst :=
    congrArg ("type" :: ·) c.keys_entries
  rw [hkeys]
  cases c.kind <;> decide

theorem assemble_entries (absent : String → ConfigError)
    (h : ∀ e ∈ c.entries, entries.lookup e.1 = some e.2) :
    c.kind.assemble absent entries = .ok c := by
  cases c with
  | scaleByDt timing mesh source target scaling =>
    simp only [ActionConfig.entries, List.forall_mem_cons] at h
    obtain ⟨htiming, hmesh, hsource, htarget, hscaling, _⟩ := h
    simp only [kind, assemble, required, htiming, hmesh, hsource, htarget, hscaling, timing_text,
      dtScaling_text]
    rfl
  | scaleByArea timing mesh target scaling =>
    simp only [ActionConfig.entries, List.forall_mem_cons] at h
    obtain ⟨htiming, hmesh, htarget, hscaling, _⟩ := h
    simp only [kind, assemble, required, htiming, hmesh, htarget, hscaling, timing_text,
      areaScaling_text]
    rfl
  | scripted timing mesh path module source target =>
    simp only [ActionConfig.entries, List.forall_mem_cons] at h
    obtain ⟨htiming, hmesh, hpath, hmodule, hsource, htarget, _⟩ := h
    simp only [kind, assemble, required, ConfigKind.optional, htiming, hmesh, hpath, hmodule,
      hsource, htarget, timing_text, optionalName_write]
    rfl

theorem kind_of_assemble {absent : String → ConfigError}
    (h : k.assemble absent entries = .ok c) : c.kind = k := by
  cases k with
  | scaleByDt =>
    obtain ⟨_, _, h⟩ := exists_of_bind h
    obtain ⟨_, _, h⟩ := exists_of_bind h
    obtain ⟨_, _, h⟩ := exists_of_bind h
    obtain ⟨_, _, h⟩ := exists_of_bind h
    obtain ⟨_, _, h⟩ := exists_of_bind h
    cases h
    rfl
  | scaleByArea =>
    obtain ⟨_, _, h⟩ := exists_of_bind h
    obtain ⟨_, _, h⟩ := exists_of_bind h
    obtain ⟨_, _, h⟩ := exists_of_bind h
    obtain ⟨_, _, h⟩ := exists_of_bind h
    cases h
    rfl
  | scripted =>
    obtain ⟨_, _, h⟩ := exists_of_bind h
    obtain ⟨_, _, h⟩ := exists_of_bind h
    obtain ⟨_, _, h⟩ := exists_of_bind h
    obtain ⟨_, _, h⟩ := exists_of_bind h
    obtain ⟨_, _, h⟩ := exists_of_bind h
    obtain ⟨_, _, h⟩ := exists_of_bind h
    cases h
    rfl

theorem ofJson_obj_eq_ok_iff :
    ofJson (.obj entries) = .ok c ↔
      (∃ j, entries.lookup "type" = some j ∧ ConfigKind.ofJson j = .ok c.kind) ∧
        (∀ e ∈ entries, c.kind.Passes e) ∧ c.kind.assemble .missingField entries = .ok c := by
  simp only [ofJson]
  split
  · rename_i hnone
    simp [hnone]
  · rename_i j hj
    constructor
    · intro h
      obtain ⟨k, hk, h⟩ := exists_of_bind h
      obtain ⟨hpasses, hassemble⟩ := ConfigKind.ofEntries_eq_ok_iff.mp h
      cases kind_of_assemble hassemble
      exact ⟨⟨j, hj, hk⟩, hpasses, hassemble⟩
    · rintro ⟨⟨j', hj', hk⟩, hread⟩
      cases hj.symm.trans hj'
      rw [hk]
      exact ConfigKind.ofEntries_eq_ok_iff.mpr hread

theorem ofJson_toJson (c : ActionConfig) : ofJson c.toJson = .ok c := by
  obtain ⟨sorted, hsorted, hmem, hlookup⟩ := Json.ofEntries_eq c.taggedEntries
  have hwritten : ∀ e ∈ c.taggedEntries, sorted.lookup e.1 = some e.2 := by
    have hdistinct : (c.taggedEntries.reverse.map Prod.fst).Nodup := by
      rw [List.map_reverse, List.nodup_reverse]
      exact c.nodup_taggedEntries
    intro e he
    rw [hlookup]
    exact Json.lookup_of_mem hdistinct (List.mem_reverse.mpr he)
  have hpasses : ∀ e ∈ c.taggedEntries, c.kind.Passes e :=
    List.forall_mem_cons.mpr ⟨.of_not_field c.kind.type_not_field, c.passes_entries⟩
  obtain ⟨htype, hentries⟩ := List.forall_mem_cons.mp hwritten
  have htext : ConfigKind.ofJson (.str c.kind.text) = .ok c.kind := ConfigKind.ofJson_text c.kind
  rw [toJson, ← taggedEntries, hsorted, ofJson_obj_eq_ok_iff]
  exact ⟨⟨_, htype, htext⟩, fun e he => hpasses e (hmem e he), assemble_entries _ hentries⟩

theorem ofJson_items (c : ActionConfig) :
    ofJson (.arr (.str c.kind.text :: c.entries.map Prod.snd)) = .ok c := by
  have hzip : (c.kind.fields.map Prod.fst).zip (c.entries.map Prod.snd) = c.entries := by
    cases c <;> rfl
  have hpasses : c.kind.checkEntries c.entries = .ok () :=
    ConfigKind.checkEntries_eq_ok_iff.mpr c.passes_entries
  have hdistinct := (List.nodup_cons.mp c.nodup_taggedEntries).2
  have hassemble : c.kind.assemble c.kind.tooShort c.entries = .ok c :=
    assemble_entries _ fun e he => Json.lookup_of_mem hdistinct he
  have hlength : (c.entries.map Prod.snd).length ≤ c.kind.fields.length := by
    have hkeys : c.entries.length = c.kind.fields.length := by
      simpa only [List.length_map] using congrArg List.length c.keys_entries
    exact Nat.le_of_eq ((List.length_map Prod.snd).trans hkeys)
  change (do (← ConfigKind.ofJson _).ofItems _) = _
  rw [ConfigKind.ofJson_text]
  change c.kind.ofItems _ = _
  simp only [ConfigKind.ofItems]
  rw [hzip, hpasses]
  change (do let config ← c.kind.assemble c.kind.tooShort c.entries; _) = _
  rw [hassemble]
  exact if_pos hlength

/-- The fields of a kind that may be left out, with what may be written in their place. -/
def leftOpen : ConfigKind → List (String × Json)
  | .scripted => [("module-path", .str ""), ("source", .null), ("target", .null)]
  | _ => []

/-- Ways to add to an object what makes no difference to a configuration of a kind: a key that is no
field of the kind, with any value, or what an absent field means. -/
inductive Adds (k : ConfigKind) (entries : List (String × Json)) : List (String × Json) → Prop
  | foreign {key : String} (value : Json) (untagged : key ≠ "type")
      (hkey : key ∉ k.fields.map Prod.fst) : Adds k entries (Json.insertEntry key value entries)
  | meant {key : String} {value : Json} (left : (key, value) ∈ leftOpen k)
      (absent : entries.lookup key = none) : Adds k entries (Json.insertEntry key value entries)

theorem assemble_insertEntry {absent : String → ConfigError} {key : String} {value : Json}
    (h : key ∉ k.fields.map Prod.fst) :
    k.assemble absent (Json.insertEntry key value entries) = k.assemble absent entries := by
  have hne : ∀ other ∈ k.fields.map Prod.fst, other ≠ key := fun other hother heq =>
    h (heq ▸ hother)
  cases k with
  | scaleByDt =>
    simp only [ConfigKind.fields, List.map_cons, List.map_nil, List.forall_mem_cons] at hne
    obtain ⟨htiming, hmesh, hsource, htarget, hscaling, _⟩ := hne
    simp only [assemble, required_insertEntry htiming, required_insertEntry hmesh,
      required_insertEntry hsource, required_insertEntry htarget, required_insertEntry hscaling]
  | scaleByArea =>
    simp only [ConfigKind.fields, List.map_cons, List.map_nil, List.forall_mem_cons] at hne
    obtain ⟨htiming, hmesh, htarget, hscaling, _⟩ := hne
    simp only [assemble, required_insertEntry htiming, required_insertEntry hmesh,
      required_insertEntry htarget, required_insertEntry hscaling]
  | scripted =>
    simp only [ConfigKind.fields, List.map_cons, List.map_nil, List.forall_mem_cons] at hne
    obtain ⟨htiming, hmesh, hpath, hmodule, hsource, htarget, _⟩ := hne
    simp only [assemble, required_insertEntry htiming, required_insertEntry hmesh,
      optional_insertEntry hpath, required_insertEntry hmodule, optional_insertEntry hsource,
      optional_insertEntry htarget]

theorem ofJson_insertEntry {key : String} {value : Json} (h : ofJson (.obj entries) = .ok c)
    (untagged : key ≠ "type") (passes : c.kind.Passes (key, value))
    (same : c.kind.assemble .missingField (Json.insertEntry key value entries) =
      c.kind.assemble .missingField entries) :
    ofJson (.obj (Json.insertEntry key value entries)) = .ok c := by
  obtain ⟨⟨j, htype, hkind⟩, hpasses, hassemble⟩ := ofJson_obj_eq_ok_iff.mp h
  refine ofJson_obj_eq_ok_iff.mpr ⟨⟨j, ?_, hkind⟩, fun e he => ?_, same.trans hassemble⟩
  · rw [Json.lookup_insertEntry, if_neg untagged.symm, htype]
  · rcases Json.mem_insertEntry he with rfl | he
    · exact passes
    · exact hpasses e he

theorem assemble_meant {missing : String → ConfigError} {key : String} {value : Json}
    (left : (key, value) ∈ leftOpen k) (absent : entries.lookup key = none) :
    k.assemble missing (Json.insertEntry key value entries) = k.assemble missing entries := by
  cases k with
  | scaleByDt => exact nomatch left
  | scaleByArea => exact nomatch left
  | scripted =>
    simp only [leftOpen, List.mem_cons, Prod.mk.injEq, List.not_mem_nil, or_false] at left
    rcases left with ⟨rfl, rfl⟩ | ⟨rfl, rfl⟩ | ⟨rfl, rfl⟩
    · have hpath : ConfigKind.path (.str "") = .ok "" := rfl
      simp (disch := decide) only [assemble, required_insertEntry, optional_insertEntry,
        optional_insertEntry_self absent hpath]
    · have hname : optionalName .null = .ok none := rfl
      simp (disch := decide) only [assemble, required_insertEntry, optional_insertEntry,
        optional_insertEntry_self absent hname]
    · have hname : optionalName .null = .ok none := rfl
      simp (disch := decide) only [assemble, required_insertEntry, optional_insertEntry,
        optional_insertEntry_self absent hname]

theorem passes_leftOpen (k : ConfigKind) : ∀ e ∈ leftOpen k, e.1 ≠ "type" ∧ k.Passes e := by
  cases k with
  | scaleByDt => exact nofun
  | scaleByArea => exact nofun
  | scripted =>
    simp only [leftOpen, List.forall_mem_cons]
    exact ⟨⟨by decide, .of_lookup rfl rfl⟩, ⟨by decide, .of_lookup rfl rfl⟩,
      ⟨by decide, .of_lookup rfl rfl⟩, nofun⟩

theorem ofJson_adds {added : List (String × Json)} (h : ofJson (.obj entries) = .ok c)
    (hadds : Adds c.kind entries added) : ofJson (.obj added) = .ok c := by
  cases hadds with
  | foreign value untagged hkey =>
    exact ofJson_insertEntry h untagged (.of_not_field hkey) (assemble_insertEntry hkey)
  | meant left absent =>
    obtain ⟨untagged, passes⟩ := passes_leftOpen c.kind _ left
    exact ofJson_insertEntry h untagged passes (assemble_meant left absent)

/-- A configuration is read as it was written, from its object and from the list of its fields in
the order of declaration. An object that is read as a configuration is still read as the same one
after any number of additions that make no difference, and what is written for it afterwards too. -/
theorem config_format (c : ActionConfig) :
    ofJson c.toJson = .ok c ∧
      c.entries.map Prod.fst = c.kind.fields.map Prod.fst ∧
      ofJson (.arr (.str c.kind.text :: c.entries.map Prod.snd)) = .ok c ∧
      ∀ entries, ofJson (.obj entries) = .ok c →
        ∀ added, Relation.ReflTransGen (Adds c.kind) entries added →
          ofJson (.obj added) = .ok c := by
  refine ⟨c.ofJson_toJson, c.keys_entries, c.ofJson_items, fun entries h added hadded => ?_⟩
  induction hadded with
  | refl => exact h
  | tail _ hadds ih => exact ofJson_adds ih hadds

def damping : ActionConfig := .scripted .regularPrior "Fluid" "" "damping" none (some "Forces")

def shortEntries : List (String × Json) :=
  [("mesh", .str "Fluid"), ("module", .str "damping"), ("target", .str "Forces"),
    ("timing", .str "regular-prior"), ("type", .str "python")]

theorem config_format_damping :
    ofJson (.obj shortEntries) = .ok damping ∧
      ofJson (.obj (Json.insertEntry "source" .null (Json.insertEntry "module-path" (.str "")
        (Json.insertEntry "scaling" (.int 1) shortEntries)))) = .ok damping := by
  obtain ⟨_, _, _, hadd⟩ := config_format damping
  have hshort : ofJson (.obj shortEntries) = .ok damping := rfl
  refine ⟨hshort, hadd shortEntries hshort _ ?_⟩
  have hforeign : Adds .scripted shortEntries (Json.insertEntry "scaling" (.int 1) shortEntries) :=
    .foreign (.int 1) (by decide) (by decide)
  exact ((Relation.ReflTransGen.single hforeign).tail (.meant (.head _) rfl)).tail
    (.meant (.tail _ (.head _)) rfl)

end ActionConfig

end FieldMesh

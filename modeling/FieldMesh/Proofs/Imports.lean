import FieldMesh.Proofs.Usage
import Mathlib.Data.String.Basic

/-! # Modules without parts

How an import goes whose name has no parts: the places are searched, and the file that is found is
run. The name is split at dots, and places are split at slashes; splitting a text at a character
does the same as splitting its characters. A module that is there is taken as it is.
-/

namespace FieldMesh

namespace Splitting

open String

/-- What is left of a text is split as its characters are, after what has been passed. The
induction is on what is left. -/
theorem splitOnAux_of_valid (sep : Char) (l m r : List Char) (acc : List String) :
    splitOnAux (ofList (l ++ m ++ r)) (ofList [sep]) ⟨utf8Len l⟩ ⟨utf8Len l + utf8Len m⟩ 0 acc =
      acc.reverse ++ (List.splitOnPPrepend (· == sep) r m.reverse).map ofList := by
  induction r generalizing l m acc with
  | nil =>
    have hend : Pos.Raw.atEnd (ofList (l ++ m ++ [])) ⟨utf8Len l + utf8Len m⟩ = true := by
      simp [-ofList_append, atEnd_iff]
    unfold splitOnAux
    rw [if_pos hend]
    simpa using extract_of_valid l m []
  | cons c r ih =>
    have hget : Pos.Raw.get (ofList [sep]) 0 = sep := get_of_valid [] [sep]
    have hnext : Pos.Raw.next (ofList [sep]) 0 = ⟨sep.utf8Size⟩ := by
      simpa using next_of_valid [] sep []
    have hback (n : Nat) : (⟨n + sep.utf8Size⟩ : Pos.Raw).unoffsetBy ⟨sep.utf8Size⟩ = ⟨n⟩ := by
      simp [Pos.Raw.unoffsetBy]
    have hstay (p : Pos.Raw) : p.unoffsetBy 0 = p := by simp [Pos.Raw.unoffsetBy]
    have hextract := extract_of_valid l m (c :: r)
    rw [List.append_assoc] at hextract
    have hmore : ¬ utf8Len m + utf8Len (c :: r) ≤ utf8Len m := by
      have := c.utf8Size_pos
      simp only [utf8Len_cons]
      omega
    unfold splitOnAux
    simp only [List.append_assoc, atEnd_iff, rawEndPos_ofList, utf8Len_append, Pos.Raw.mk_le_mk,
      Nat.add_le_add_iff_left, hmore, if_false]
    simp only [by
      simpa [-ofList_append] using
        (⟨get_of_valid (l ++ m) (c :: r), next_of_valid (l ++ m) c r⟩ : _ ∧ _), hget, hnext, hstay]
    split <;> rename_i h
    · cases beq_iff_eq.mp h
      simp only [hback, hextract]
      simpa [Nat.add_assoc, List.splitOnPPrepend_cons_eq_if] using
        ih (l ++ m ++ [sep]) [] (ofList m :: acc)
    · simpa [List.splitOnPPrepend_cons_eq_if, h, Nat.add_assoc] using ih l (m ++ [c]) acc

theorem splitOn_ofList (s : List Char) (sep : Char) :
    splitOn (ofList s) (ofList [sep]) = (List.splitOn sep s).map ofList := by
  have haux := splitOnAux_of_valid sep [] [] s []
  simpa [splitOn, List.splitOn] using haux

end Splitting

namespace Coupling

variable {c c' : Coupling} {name : String}

/-- How an import goes on from the search of a module without parts. -/
def importFound (load : Importer) (name : String) (places : List String) :
    (Disk.Found × List String) × Coupling → Except Exn Unit × Coupling
  | ((.file path code parts, _), c) => loadFile load name path code parts c
  | ((.directory _, directories), c) =>
    if name.startsWith "." then (.error (missingOwner ""), c)
    else
      (.ok (), c.setInterpreter (c.interpreter.enter (.fresh name none
        (some (.gathered directories places c.lease.generation)) default)))
  | ((.unusable, _), c) => (.error unusablePlace, c)
  | ((.nothing, _), c) => (.error (notFound name), c)

theorem importPart_nil (load : Importer) (hlast : lastPart name = name) (hname : name ≠ "")
    (hstandard : Standard.holds name = false) (hnew : c.interpreter.isLoaded name = false) :
    importPart load name [] c =
      importFound load name c.interpreter.searchPath (c.search name c.interpreter.searchPath) := by
  have hthere : (c.interpreter.isLoaded name || Standard.holds name) = false := by
    rw [hnew, hstandard, Bool.or_false]
  simp only [importPart, hthere, hname, hasParts, placesOf, hlast, Bool.false_eq_true, if_false,
    Bool.not_true]
  rcases c.search name c.interpreter.searchPath with ⟨⟨found, others⟩, searched⟩
  cases found with
  | file path code parts =>
    simp only [importFound]
    rcases loadFile load name path code parts searched with ⟨_ | _, _⟩ <;> rfl
  | directory parts => rfl
  | nothing => rfl
  | unusable => rfl

theorem load_of_flat (hflat : name.splitOn "." = [name]) (c : Coupling) :
    c.load name = importPart (importWithin (c.importDepth - 1)) name [] c := by
  have hdepth : c.importDepth = c.importDepth - 1 + 1 := by
    have hpos : 0 < c.importDepth :=
      Nat.mul_pos (Nat.mul_pos Nat.two_pos (Nat.succ_pos _)) (Nat.succ_pos _)
    omega
  have hchain : chain name = [name] := by simp [chain, hflat]
  have hfront (load : Importer) (c : Coupling) : importFront load name c = (.ok (), c) := by
    simp only [importFront, hflat]
  rw [load, hdepth, importWithin, hchain, Nat.add_sub_cancel]
  simp only [importChain, List.head?_nil, Option.all_none, Bool.or_true, if_true, hfront]
  rcases importPart (importWithin (c.importDepth - 1)) name [] c with ⟨_ | _, _⟩ <;> rfl

theorem load_of_isLoaded (hflat : name.splitOn "." = [name])
    (hloaded : c.interpreter.isLoaded name = true) : c.load name = (.ok (), c) := by
  rw [load_of_flat hflat, importPart, hloaded, Bool.true_or, if_pos rfl]

theorem load_of_search (hflat : name.splitOn "." = [name]) (hname : name ≠ "")
    (hstandard : Standard.holds name = false) (hnew : c.interpreter.isLoaded name = false) :
    c.load name = importFound (importWithin (c.importDepth - 1)) name c.interpreter.searchPath
      (c.search name c.interpreter.searchPath) := by
  have hlast : lastPart name = name := by simp [lastPart, hflat]
  rw [load_of_flat hflat]
  exact importPart_nil _ hlast hname hstandard hnew

end Coupling

/-! ## Modules that are there -/

theorem Interpreter.isLoaded_of_module? {s : Interpreter} {name : String} {l : Loaded}
    (h : s.module? name = some l) : s.isLoaded name = true := by
  rw [module?] at h
  have hname := List.find?_some h
  exact List.any_eq_true.mpr ⟨l, List.mem_of_find?_eq_some h, hname⟩

namespace ScriptedAction

variable {a : ScriptedAction} {c : Coupling} {l : Loaded}

theorem ensureLoaded_of_isLoaded {perform : List Float → List Object → Program Unit}
    (hstate : a.state = .unloaded) (hflat : a.module.splitOn "." = [a.module])
    (hl : c.interpreter.module? a.module = some l) (hperform : l.perform = some perform)
    (hnumpy : c.interpreter.isLoaded "numpy" = true) :
    ∃ loaded searchPath,
      a.ensureLoaded c = (.ready ⟨perform, l.vertex, l.post, some "numpy"⟩, loaded) ∧
        loaded.cells = c.cells ∧ loaded.interpreter = { c.interpreter with searchPath } := by
  generalize hdirectory : a.directory c.interpreter.disk = directory
  obtain ⟨searchPath, hplaced, hcells⟩ := c.acquire.exists_addPlace directory
  rw [Coupling.interpreter_acquire] at hplaced
  rw [Coupling.cells_acquire] at hcells
  have hload : (c.acquire.addPlace directory).load a.module =
      (.ok (), c.acquire.addPlace directory) := by
    refine Coupling.load_of_isLoaded hflat ?_
    rw [hplaced]
    exact Interpreter.isLoaded_of_module? hl
  have hloaded : (c.acquire.loadFrom directory a.module).interpreter =
        { c.interpreter with searchPath } ∧
      (c.acquire.loadFrom directory a.module).cells = c.cells := by
    simp only [Coupling.loadFrom, hload]
    exact ⟨hplaced, hcells⟩
  have himport := importHooks_eq a.module directory c
  generalize c.acquire.loadFrom directory a.module = loaded at himport hloaded
  obtain ⟨hinterpreter, hcells⟩ := hloaded
  have harrays : loaded.load "numpy" = (.ok (), loaded) :=
    Coupling.load_of_isLoaded (Splitting.splitOn_ofList ['n', 'u', 'm', 'p', 'y'] '.')
      (by rwa [hinterpreter])
  have hmodule : loaded.interpreter.module? a.module = some l := by rwa [hinterpreter]
  simp only [hload, takeHooks, hmodule, hperform, harrays, Option.getD_some] at himport
  refine ⟨loaded.emit .info
      (loadedText a.module directory ⟨perform, l.vertex, l.post, some "numpy"⟩),
    searchPath, ?_, hcells, hinterpreter⟩
  simp only [ensureLoaded, hstate, hdirectory, himport]

end ScriptedAction

end FieldMesh

import FieldMesh.Script.Access
import FieldMesh.Script.Standard

/-! # Running programs

A program runs in a module, whose counters and kept objects its questions are about. Importing
a module runs the program of its file, which may import further modules; a module that is
being imported counts as loaded, so nesting ends. A module whose name has parts is imported
after the module it belongs to, which then has it under the last part of its name; the module of
the first part is imported in any case. Standard modules are there from the start.
-/

namespace FieldMesh

namespace Coupling

/-- How a question to import a module is met. -/
abbrev Importer := String → Coupling → Except Exn Unit × Coupling

/-- Meets a question that changes nothing. -/
def look {α : Type} (c : Coupling) (r : Except Exn α) : Except Exn α × Coupling := (r, c)

def make (c : Coupling) (r : Except Exn (Object × Coupling)) : Except Exn Object × Coupling :=
  match r with
  | .ok (o, changed) => (.ok o, changed)
  | .error e => (.error e, c)

/-- Meets a question that changes the coupling unless it is refused. -/
def change (c : Coupling) (r : Except Exn Coupling) : Except Exn Unit × Coupling :=
  match r with
  | .ok changed => (.ok (), changed)
  | .error e => (.error e, c)

def answer (load : Importer) (module : String) (c : Coupling) :
    (q : Query) → Except Exn q.Answer × Coupling
  | .trace record => (.ok (), c.note (.traced record))
  | .self => (.ok module, c)
  | .load name => load name c
  | .count counter =>
    let (n, s) := c.interpreter.count module counter
    (.ok n, c.setInterpreter s)
  | .keep o =>
    (.ok (), c.setInterpreter
      (c.interpreter.modifyModule module fun l => { l with kept := l.kept ++ [o] }))
  | .store o =>
    (.ok (), c.setInterpreter { c.interpreter with stored := c.interpreter.stored ++ [o] })
  | .forget =>
    (.ok (), c.setInterpreter (c.interpreter.modifyModule module fun l => { l with kept := [] }))
  | .kept => c.look (c.lastKept module)
  | .abandon o =>
    (.ok (), c.setInterpreter
      { c.interpreter with garbage := c.interpreter.garbage ++ [o] })
  | .item o x => c.look (c.readItem o x)
  | .assign o x v => c.change (c.writeItem o x v)
  | .append o v => c.change (c.append o v)
  | .length o => c.look (c.lengthOf o)
  | .rank o => c.look (rankOf o)
  | .shape o => c.look (shapeOf o)
  | .contents o => c.look (c.contentsOf o)
  | .describe o => c.look (.ok (c.describe o))
  | .collect items =>
    let (o, s) := c.interpreter.newList items
    (.ok o, c.setInterpreter s)
  | .base o => c.look (baseOf o)
  | .window o => c.make (c.windowOf o)
  | .tail o => c.make (c.tailOf o)
  | .exports o => c.look (c.exportsOf o)
  | .request o flags into => c.look (c.requestFrom flags into o)

def exec (load : Importer) (module : String) {α : Type} :
    Program α → Coupling → Except Exn α × Coupling
  | .done r, c => (r, c)
  | .ask q next, c =>
    let met := c.answer load module q
    exec load module (next met.1) met.2

def notFound (name : String) : Exn :=
  .of "ModuleNotFoundError" s!"No module named {Quoted.apostrophed name}"

/-- A module that would have to be a part of one without parts. -/
def notAPackage (name parent : String) : Exn :=
  .of "ModuleNotFoundError"
    s!"No module named {Quoted.apostrophed name}; {Quoted.apostrophed parent} is not a package"

/-- A module that others are parts of and that is not loaded. -/
def missingOwner (name : String) : Exn := .of "KeyError" (Quoted.apostrophed name)

/-- A module that others are parts of and that has been replaced by one without parts. -/
def noParts (name : String) : Exn :=
  .of "AttributeError" s!"module {Quoted.apostrophed name} has no attribute '__path__'"

def unusablePlace : Exn := .of "ValueError" "embedded null byte"

def lastPart (name : String) : String := (name.splitOn ".").getLastD ""

/-- Takes the directories that make up a module, as they were found in some places. -/
def gather (c : Coupling) (name : String) (directories places : List String) :
    Except Exn (List String) × Coupling :=
  let parts := Parts.gathered directories places c.lease.generation
  (.ok directories, c.setInterpreter
    (c.interpreter.modifyModule name fun l => { l with parts := some parts }))

def search (c : Coupling) (name : String) (places : List String) :
    (Disk.Found × List String) × Coupling :=
  (c.interpreter.search name places, c.setInterpreter (c.interpreter.remember name places))

/-- Where the parts of the first of some modules are searched, each of which belongs to the
next. A module that is made up of directories alone gathers them anew if the places where they
lie or the session have changed, and keeps the former ones if it finds none. -/
def placesOf : List String → Coupling → Except Exn (List String) × Coupling
  | [], c => (.ok c.interpreter.searchPath, c)
  | name :: owners, c =>
    match c.interpreter.module? name with
    | none => (if Standard.isPackage name then .ok [] else .error (missingOwner name), c)
    | some l =>
      match l.parts with
      | none => (.error (noParts name), c)
      | some (.beside directory) => (.ok [directory], c)
      | some (.gathered former formerPlaces session) =>
        match placesOf owners c with
        | (.error e, c) => (.error e, c)
        | (.ok places, c) =>
          if places = formerPlaces ∧ session = c.lease.generation then (.ok former, c)
          else
            match c.search (lastPart name) places with
            | ((.unusable, _), c) => (.error unusablePlace, c)
            | ((.directory _, found), c) => c.gather name found places
            | (_, c) => c.gather name former places

/-- Whether the module that another one belongs to has parts, if there is such a module. -/
def hasParts (c : Coupling) : List String → Bool
  | [] => true
  | owner :: _ =>
    (c.interpreter.module? owner).any (·.parts.isSome) || Standard.isPackage owner

/-- Gives a loaded module to the one it belongs to. -/
def attach (c : Coupling) (name : String) : List String → Coupling
  | [] => c
  | owner :: _ =>
    c.setInterpreter (c.interpreter.modifyModule owner (·.attach (lastPart name)))

/-- Loads a module file; if its program fails, the module is not loaded. -/
def loadFile (load : Importer) (name : String) (path : List String) (code : Code)
    (parts : Option String) (c : Coupling) : Except Exn Unit × Coupling :=
  let file := c.interpreter.disk.text path ++ Disk.ending
  let entered := c.setInterpreter
    (c.interpreter.enter (.fresh name (some file) (parts.map .beside) code))
  match exec load name code.top entered with
  | (.ok (), done) =>
    (.ok (), done.setInterpreter (done.interpreter.modifyModule name Loaded.define))
  | (.error e, failed) => (.error e, failed.setInterpreter (failed.interpreter.unload [name]))

/-- Searches and loads a module, once the module it belongs to is loaded. -/
def importPart (load : Importer) (name : String) (owners : List String) (c : Coupling) :
    Except Exn Unit × Coupling :=
  if c.interpreter.isLoaded name || Standard.holds name then (.ok (), c)
  else if name = "" then (.error (.of "ValueError" "Empty module name"), c)
  else if !c.hasParts owners then (.error (notAPackage name (owners.headD "")), c)
  else
    match placesOf owners c with
    | (.error e, c) => (.error e, c)
    | (.ok places, c) =>
      match c.search (lastPart name) places with
      | ((.file path code parts, _), c) =>
        match loadFile load name path code parts c with
        | (.ok (), c) => (.ok (), c.attach name owners)
        | (.error e, c) => (.error e, c)
      | ((.directory _, directories), c) =>
        if name.startsWith "." then (.error (missingOwner ""), c)
        else
          let parts := Parts.gathered directories places c.lease.generation
          (.ok (), (c.setInterpreter
            (c.interpreter.enter (.fresh name none (some parts) default))).attach name owners)
      | ((.unusable, _), c) => (.error unusablePlace, c)
      | ((.nothing, _), c) => (.error (notFound name), c)

/-- Imports the module of the first part of a name that has several. -/
def importFront (load : Importer) (name : String) (c : Coupling) : Except Exn Unit × Coupling :=
  match name.splitOn "." with
  | front :: _ :: _ => importPart load front [] c
  | _ => (.ok (), c)

/-- Imports the first of some modules, each of which belongs to the next. A module that is not
loaded needs the one it belongs to, which may load it on its own. -/
def importChain (load : Importer) : List String → Coupling → Except Exn Unit × Coupling
  | [], c => (.ok (), c)
  | name :: owners, c =>
    let settled := c.interpreter.isLoaded name || owners.head?.all c.interpreter.isLoaded
    let (owned, c) := if settled then (.ok (), c) else importChain load owners c
    match owned with
    | .error e => (.error e, c)
    | .ok () =>
      match importPart load name owners c with
      | (.error e, c) => (.error e, c)
      | (.ok (), c) => importFront load name c

/-- A module and those it belongs to, the nearest first. -/
def chain (name : String) : List String :=
  let names := name.splitOn "."
  name :: ((List.range (names.length - 1)).reverse.map fun n =>
    ".".intercalate (names.take (n + 1))).takeWhile (· ≠ "")

/-- Imports a module; `n` bounds how deep imports are nested. -/
def importWithin : Nat → Importer
  | 0, name, c => (.error (notFound name), c)
  | n + 1, name, c => importChain (importWithin n) (chain name) c

/-- More than the number of names under which files can be loaded. -/
def importDepth (c : Coupling) : Nat :=
  let places :=
    c.interpreter.searchPath ++
      c.interpreter.modules.flatMap fun l => (l.parts.map Parts.directories).getD []
  2 * (places.length + 1) * (c.interpreter.disk.files.length + 1)

def load (name : String) (c : Coupling) : Except Exn Unit × Coupling :=
  importWithin c.importDepth name c

def run {α : Type} (module : String) (p : Program α) (c : Coupling) : Except Exn α × Coupling :=
  exec load module p c

end Coupling

end FieldMesh

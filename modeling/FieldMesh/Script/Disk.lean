import FieldMesh.Script.Program

/-! # Module files

The tree of files from which modules are imported. Its root is also the working directory. A
path is a list of names below the root; a module file is listed without its ending.
-/

namespace FieldMesh

/-- The module files below a root. -/
structure Disk where
  root : String
  files : List (List String × Code)
deriving Inhabited

namespace Disk

def ending : String := ".py"

def text (d : Disk) (path : List String) : String := "/".intercalate (d.root :: path)

def code? (d : Disk) (path : List String) : Option Code :=
  (d.files.find? fun f => f.1 == path).map Prod.snd

def write (d : Disk) (path : List String) (code : Code) : Disk :=
  { d with files := (d.files.filter fun f => f.1 != path) ++ [(path, code)] }

/-- Whether a path is the root or leads to some file. -/
def isDirectory (d : Disk) (path : List String) : Bool :=
  path.isEmpty || d.files.any fun f => path.length < f.1.length && path.isPrefixOf f.1

/-- Whether a path names a module file with its ending. -/
def isFile (d : Disk) (path : List String) : Bool :=
  d.files.any fun f => path == f.1.dropLast ++ [f.1.getLast?.getD "" ++ ending]

/-- The names in a text, if it is meant from the root. -/
def names? (d : Disk) (text : String) : Option (List String) :=
  let names := text.splitOn "/"
  let root := d.root.splitOn "/"
  if root.isPrefixOf names then some (names.drop root.length)
  else if text.startsWith "/" then none
  else some names

/-- Follows names from a path; each but the last has to lead to a directory. -/
def walk (d : Disk) : List String → List String → Option (List String)
  | path, [] => some path
  | path, name :: rest =>
    if !d.isDirectory path then none
    else if name = "" ∨ name = "." then d.walk path rest
    else if name = ".." then if path.isEmpty then none else d.walk path.dropLast rest
    else if d.isDirectory (path ++ [name]) || d.isFile (path ++ [name]) then
      d.walk (path ++ [name]) rest
    else none

def path? (d : Disk) (text : String) : Option (List String) := (d.names? text).bind (d.walk [])

/-- The directory in which everything lies. -/
def top : String := "/"

/-- Whether a text leads to the top: there is nothing above it to go to. -/
def leadsToTop (text : String) : Bool :=
  text.startsWith "/" && (text.splitOn "/").all ["", ".", ".."].contains

/-- The text of a directory without detours; what leads nowhere stays as it is. -/
def canonical (d : Disk) (text : String) : String :=
  match d.path? text with
  | some path => d.text path
  | none => if leadsToTop text then top else text

def holds (d : Disk) (text : String) : Bool :=
  (d.root.splitOn "/").isPrefixOf (text.splitOn "/")

/-- Where the search for a module in one place ends. -/
inductive Found where
  /-- A module file, with the directory of its parts if it has any. -/
  | file (path : List String) (code : Code) (parts : Option String)
  /-- A directory whose files are parts. -/
  | directory (parts : String)
  | nothing
  /-- The name of the place cannot be the name of a directory, and the search ends there. -/
  | unusable

def isPlace (d : Disk) (text : String) : Bool := (d.path? text).any d.isDirectory

def find (d : Disk) (place name : String) : Found :=
  match d.path? place with
  | none => if place.contains '\x00' then .unusable else .nothing
  | some path =>
    let inner := path ++ [name]
    match d.code? (inner ++ ["__init__"]) with
    | some code => .file (inner ++ ["__init__"]) code (some (d.text inner))
    | none =>
      match d.code? inner with
      | some code => .file inner code none
      | none => if d.isDirectory inner then .directory (d.text inner) else .nothing

/-- Searches a module in some places: the first file, or else all directories. A place that
cannot be used ends the search unless a file has been found before. -/
def search (d : Disk) (name : String) : List String → Found × List String
  | [] => (.nothing, [])
  | place :: rest =>
    match d.find place name with
    | .file path code parts => (.file path code parts, [])
    | .unusable => (.unusable, [])
    | .directory parts =>
      match d.search name rest with
      | (.file path code parts, _) => (.file path code parts, [])
      | (.unusable, _) => (.unusable, [])
      | (_, others) => (.directory parts, parts :: others)
    | .nothing => d.search name rest

/-- The places that a search goes through. -/
def passed (d : Disk) (name : String) : List String → List String
  | [] => []
  | place :: rest =>
    match d.find place name with
    | .file .. => [place]
    | .unusable => []
    | _ => place :: d.passed name rest

theorem passed_sublist (d : Disk) (name : String) (places : List String) :
    (d.passed name places).Sublist places := by
  induction places with
  | nil => exact .slnil
  | cons place rest ih =>
    unfold passed
    split
    · exact (List.nil_sublist rest).cons_cons place
    · exact List.nil_sublist _
    · exact ih.cons_cons place

end Disk

end FieldMesh

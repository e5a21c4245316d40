import ConstantProduct.Settings.Document
import ConstantProduct.Settings.Expansion

namespace ConstantProduct

/-- The files of the working directory, as text under relative names, and the variables of the
environment. -/
structure Workspace where
  files : List (String × String)
  environment : Environment
  deriving Repr

namespace Workspace

def parts (path : String) : List String := path.splitOn "/"

/-- The part of a path stands for the directory before it. -/
def isIdle (part : String) : Bool := part == "" || part == "."

def fileNames (w : Workspace) : List (List String) :=
  w.files.map fun (name, _) => (parts name).filter (!isIdle ·)

def isDirectory (w : Workspace) (names : List String) : Bool :=
  names == [] || w.fileNames.any fun file => names.isPrefixOf file && names != file

/-- The directory that parts lead to from a directory, inside the working directory. -/
def walk? (w : Workspace) : List String → List String → Option (List String)
  | directory, [] => some directory
  | directory, part :: path =>
    if isIdle part then w.walk? directory path
    else if part = ".." then
      if directory = [] then none else w.walk? directory.dropLast path
    else if w.isDirectory (directory ++ [part]) then w.walk? (directory ++ [part]) path
    else none

def content? (w : Workspace) (path : List String) : Option String := do
  let name ← path.getLast?
  if isIdle name ∨ name = ".." then none
  let directory ← w.walk? [] path.dropLast
  let file := directory ++ [name]
  (w.fileNames.zip (w.files.map Prod.snd)).lookup file

def extended? (ending : String) (path : List String) : Option (List String) := do
  let path := (path.reverse.dropWhile isIdle).reverse
  let name ← path.getLast?
  if name = ".." then none
  return path.dropLast ++ [name ++ ending]

/-- The content of the file at a path or, if there is none, at the path with `.toml` added. -/
def read? (w : Workspace) (path : String) : Option String :=
  if path.startsWith "/" then none
  else
    match w.content? (parts path) with
    | some text => some text
    | none => (extended? ".toml" (parts path)).bind w.content?

/-- The entries of a file's document; a mark in front of the file is no part of the document. -/
def document? (w : Workspace) (path : String) : Option (List (String × Setting)) := do
  let text ← w.read? path
  let entries ← Toml.Document.read? (String.ofList (Toml.Document.dropMark text.toList))
  match ← (Setting.table (Setting.ofTomlEntries entries)).withMoments? with
  | .table entries => return entries
  | _ => none

def tree (w : Workspace) (path : String) : Except Settings.Error Setting := do
  match w.document? path with
  | none => throw (.notBuilt path)
  | some entries =>
    let tree ← entries.foldlM
      (fun (tree : Setting) (key, s) => tree.put (KeyPath.ofText key) s) (.table [])
    Environment.override tree w.environment

def settingsAt (w : Workspace) (path : String) : Except Settings.Error Settings := do
  let tree ← w.tree path
  match Setting.Reading.lenient.settings? tree.entries with
  | none => throw .notDecoded
  | some s => return s

def load (w : Workspace) (path : String) : Except Settings.Error Settings := do
  match Settings.Expansion.expand? w.environment path with
  | none => throw .pathNotExpanded
  | some path =>
    let s ← w.settingsAt path
    s.validate
    return s

def loadEvents (w : Workspace) (path : String) : List Event :=
  match Settings.Expansion.expand? w.environment path with
  | none => []
  | some path =>
    .settingsLoading path ::
      match w.settingsAt path with
      | .ok s => s.validateEvents
      | .error _ => []

def defaultPath : String := "config/cpswap.toml"

end Workspace

end ConstantProduct

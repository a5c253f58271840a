/-!
File trees: files and directories without links, seen from a working directory. The names of a path
are cut at its slashes; `.` stays and `..` goes up, but never above the root. A file is written only
where no directory stands, and the directories on the way to it are made. Nothing can be done with
a place that is closed. A file is written as a whole or not at all.
-/

namespace RegisterFile

/-- What stands at a place. -/
inductive FileTree.Entry where
  | file (content : List UInt8)
  | directory
  deriving DecidableEq, Repr

/-- The entries of a file system, each at its place: the names that lead to it from the root. -/
structure FileTree where
  entries : List (List String × FileTree.Entry) := []
  /-- The place of the working directory. -/
  working : List String := []
  /-- The places without access. -/
  closed : List (List String) := []
  deriving DecidableEq, Repr

namespace FileTree

/-! ### Texts -/

/-- The bytes of a text. -/
def encode (text : String) : List UInt8 :=
  text.toUTF8.data.toList

/-- The text that bytes stand for, if they are UTF-8. -/
def decode? (content : List UInt8) : Option String :=
  String.fromUTF8? ⟨content.toArray⟩

/-! ### Paths -/

/-- The parts of a path between its slashes. -/
def parts (path : String) : List String :=
  (path.toList.splitOn '/').map String.ofList

/-- The names in a path. -/
def names (path : String) : List String :=
  (parts path).filter fun name => name != "" && name != "."

/-- Whether a path starts at the root. -/
def isAbsolute (path : String) : Bool :=
  path.toList.head? == some '/'

/-- Where a path starts. -/
def start (tree : FileTree) (path : String) : List String :=
  if isAbsolute path then [] else tree.working

/-- The names of the directories in which the last name of a path is looked up. -/
def parents (path : String) : List String :=
  (names path).dropLast

/-- The name of the file at a path, unless the path is written as that of a directory. -/
def fileName? (path : String) : Option String :=
  (parts path).getLast?.filter fun name => name != "" && name != "." && name != ".."

/-! ### Entries -/

/-- The entry at a place; no names lead to the root. -/
def lookup? (tree : FileTree) (place : List String) : Option Entry :=
  if place.isEmpty then some .directory
  else (tree.entries.find? fun entry => entry.1 == place).map (·.2)

/-- The tree with an entry in place of the one that stood there. -/
def put (tree : FileTree) (place : List String) (entry : Entry) : FileTree :=
  { tree with entries := (place, entry) :: tree.entries.filter fun other => other.1 != place }

/-- The content of the file at a place. -/
def file? (tree : FileTree) (place : List String) : Option (List UInt8) :=
  match tree.lookup? place with
  | some (.file content) => some content
  | _ => none

/-! ### Reading and writing -/

/-- One name further down a path, in an existing directory. -/
def enter? (tree : FileTree) (here : List String) (name : String) : Option (List String) :=
  if name = ".." then some here.dropLast
  else
    let there := here ++ [name]
    if tree.closed.contains there then none
    else if tree.lookup? there = some .directory then some there
    else none

/-- The content of the file that a path leads to. -/
def read? (tree : FileTree) (path : String) : Option (List UInt8) := do
  let name ← fileName? path
  let here ← (parents path).foldlM tree.enter? (tree.start path)
  if tree.closed.contains (here ++ [name]) then none else tree.file? (here ++ [name])

/-- One name further down a path, in a directory that is made if nothing stands in its place. -/
def makeDirectory (tree : FileTree) (here : List String) (name : String) :
    FileTree × Option (List String) :=
  let there := here ++ [name]
  let tree :=
    if name != ".." && !tree.closed.contains there && (tree.lookup? there).isNone then
      tree.put there .directory
    else tree
  (tree, tree.enter? here name)

/-- Goes down a path and makes the directories that are missing; with the place reached, if nothing
    is in the way. -/
def makeDirectories (tree : FileTree) (here : List String) :
    List String → FileTree × Option (List String)
  | [] => (tree, some here)
  | name :: rest =>
    match tree.makeDirectory here name with
    | (tree, some there) => tree.makeDirectories there rest
    | (tree, none) => (tree, none)

/-- Writes a file into an existing directory; with whether it could be written. -/
def writeFile (tree : FileTree) (place : List String) (content : List UInt8) : FileTree × Bool :=
  if tree.closed.contains place then (tree, false)
  else if tree.lookup? place = some .directory then (tree, false)
  else (tree.put place (.file content), true)

/-- Writes a text to a path and makes the directories above it; with whether it could be written.
    The directories are made even if the path is written as that of a directory. -/
def write (tree : FileTree) (path text : String) : FileTree × Bool :=
  match tree.makeDirectories (tree.start path) (parents path) with
  | (tree, none) => (tree, false)
  | (tree, some here) =>
    match fileName? path with
    | none => (tree, false)
    | some name => tree.writeFile (here ++ [name]) (encode text)

/-- Writes files in order up to the first that cannot be written; with whether all could. -/
def writeAll (tree : FileTree) : List (String × String) → FileTree × Bool
  | [] => (tree, true)
  | (path, text) :: rest =>
    match tree.write path text with
    | (tree, true) => tree.writeAll rest
    | (tree, false) => (tree, false)

/-! ### Working directories -/

/-- A working directory below the root with nothing but files given by their paths. -/
def ofFiles (files : List (String × String)) : FileTree :=
  let tree : FileTree := { entries := [(["work"], .directory)], working := ["work"] }
  (tree.writeAll files).1

/-- A place as a path from the working directory, if it lies below. -/
def relative? (tree : FileTree) (place : List String) : Option String :=
  if tree.working.isPrefixOf place then
    some ("/".intercalate (place.drop tree.working.length))
  else none

/-- The texts below the working directory under their paths. -/
def texts (tree : FileTree) : List (String × String) :=
  tree.entries.filterMap fun (place, entry) => do
    let .file content := entry | none
    return (← tree.relative? place, ← decode? content)

/-- The texts of a tree that are new or changed since another one. -/
def changedSince (tree before : FileTree) : List (String × String) :=
  tree.texts.filter fun file => !before.texts.contains file

end FileTree

end RegisterFile

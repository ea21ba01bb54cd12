import PortMapper.System

/-!
# File trees

The part of a file system that settings are kept in: a tree of directories
with files in them, none of which is a link to another. What a process may not
look into counts as empty, and every file can be read.

A path is written with slashes between its names. Each name but the last must
lead to a directory; two dots lead back up from it (`FileTree.locate`).
Directories are made from the front (`FileTree.makeDirectories`), so that some
of them may be there when the next cannot be made. A file is emptied before it
is written (`FileTree.write`), and holds a part of the bytes if writing breaks
off.
-/

namespace PortMapper

/-- A file with its bytes, or a directory with its entries. -/
inductive FileTree where
  | file (bytes : Bytes)
  | directory (entries : List (String × FileTree))
deriving Repr

namespace FileTree

/-- What may be at a place: a file with its bytes, or a directory. -/
inductive Node where
  | file (bytes : Bytes)
  | directory
deriving DecidableEq, Repr

/-! ## Paths -/

/-- The names of a path. Empty names and those of the directory itself lead
nowhere. -/
def names (path : String) : List String :=
  ((path.toList.splitOn '/').map String.ofList).filter fun name => name != "" && name != "."

/-- Whether a path is written as only that of a directory is. -/
def asksForDirectory (path : String) : Bool :=
  let last := (path.toList.splitOn '/').getLast?
  last == some [] || last == some ['.']

/-- Where a path starts. -/
def start (system : System) (path : String) : Place :=
  if path.startsWith "/" then [] else system.workingDirectory

/-- Where a name leads from a place. There is nothing above the root. -/
def follow (here : Place) (name : String) : Place :=
  if name = ".." then here.dropLast else here ++ [name]

/-! ## Looking -/

/-- What is at a place. -/
def at? : FileTree → Place → Option Node
  | .file bytes, [] => some (.file bytes)
  | .file _, _ :: _ => none
  | .directory _, [] => some .directory
  | .directory entries, name :: place => entries.lookup name >>= (at? · place)

/-- Where names lead from a place, one after another. -/
def locate (files : FileTree) (here : Place) : List String → Option Place
  | [] => some here
  | name :: names =>
    if files.at? here = some .directory then locate files (follow here name) names else none

/-- The place that a path leads to, where something is or may be put. The
empty path leads nowhere. -/
def place? (files : FileTree) (system : System) (path : String) : Option Place :=
  if path.isEmpty then none else files.locate (start system path) (names path)

/-- What is at the place that a path leads to. -/
def find? (files : FileTree) (system : System) (path : String) : Option Node :=
  match files.place? system path >>= files.at? with
  | some (.file bytes) => if asksForDirectory path then none else some (.file bytes)
  | node => node

/-! ## Changing -/

/-- Changes an entry of a directory, or adds one. -/
def alter (entries : List (String × FileTree)) (name : String)
    (f : Option FileTree → Option FileTree) : Option (List (String × FileTree)) :=
  match entries with
  | [] => (f none).map fun t => [(name, t)]
  | (n, t) :: rest =>
    if n = name then (f (some t)).map fun t => (n, t) :: rest
    else (alter rest name f).map ((n, t) :: ·)

/-- Puts a file or a directory at a place. Fails unless the place is in a
directory. -/
def put (new : FileTree) : Place → FileTree → Option FileTree
  | [], _ => some new
  | _ :: _, .file _ => none
  | name :: place, .directory entries =>
    (alter entries name fun
      | none => if place = [] then some new else none
      | some t => put new place t).map .directory

/-- Makes a directory at a place unless there is one. The answer is whether
there is one now. -/
def makeDirectory (files : FileTree) (system : System) (place : Place) : Bool × FileTree :=
  match files.at? place with
  | some .directory => (true, files)
  | some (.file _) => (false, files)
  | none =>
    match if system.mayMake place then put (.directory []) place files else none with
    | none => (false, files)
    | some made => (true, made)

/-- Makes the directories that names lead to, one after another. The answer is
whether all are there now. -/
def makeDirectories (system : System) (files : FileTree) (here : Place) :
    List String → Bool × FileTree
  | [] => (true, files)
  | name :: names =>
    if files.at? here = some .directory then
      match files.makeDirectory system (follow here name) with
      | (true, files) => makeDirectories system files (follow here name) names
      | (false, files) => (false, files)
    else (false, files)

/-- Makes the directories on the way of a path. -/
def makeWay (files : FileTree) (system : System) (path : String) : Bool × FileTree :=
  makeDirectories system files (start system path) (names path).dropLast

/-- Writes a file at a place. The answer is whether all bytes are written. -/
def writeAt (files : FileTree) (system : System) (bytes : Bytes) (place : Place) :
    Bool × FileTree :=
  match if files.at? place = some .directory then none else (system.writing place).keep bytes with
  | none => (false, files)
  | some kept =>
    match put (.file kept) place files with
    | none => (false, files)
    | some written => (kept == bytes, written)

/-- Writes a file at the place that a path leads to. -/
def write (files : FileTree) (system : System) (bytes : Bytes) (path : String) :
    Bool × FileTree :=
  match if asksForDirectory path then none else files.place? system path with
  | none => (false, files)
  | some place => files.writeAt system bytes place

end FileTree

end PortMapper

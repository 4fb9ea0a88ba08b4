import AbiProbe.Text.Utf8
import AbiProbe.Toolchain.SystemError

/-! # Files and directories

A file tree holds files, directories and devices at locations counted from the root. A path leads
from the root or from the current directory to a location, one component at a time
(`AbiProbe.FileTree.resolve`); every component but the last must lead to a directory. The system
limits the bytes of a path and of each name in it. A file is opened for writing where its path
leads (`AbiProbe.FileTree.openFile`), and from then on holds what has been written to it.
-/

namespace AbiProbe

/-- The names on the way from the root to a file or directory. -/
abbrev Location := List String

/-- A file that keeps nothing of what is written to it, and is read as empty. -/
inductive Device
  /-- Forgets what it takes. -/
  | null
  /-- Passes on what it takes to the standard output of the program that writes. -/
  | stdout
deriving DecidableEq, Repr

/-- What stands at a location. -/
inductive Node
  | file (content : List UInt8)
  | directory
  | device (device : Device)
deriving DecidableEq, Repr

/-- The files and directories a program can reach. -/
structure FileTree where
  /-- The nodes by their locations. Directories on the way to a node need not be listed. -/
  entries : List (Location × Node)
  /-- The location of the current directory. -/
  current : Location
deriving DecidableEq, Repr

namespace FileTree

/-- What stands at a location, if anything does. -/
def node? (tree : FileTree) (location : Location) : Option Node :=
  match tree.entries.lookup location with
  | some node => some node
  | none =>
      if location.isPrefixOf tree.current ||
          tree.entries.any (fun entry => location.isPrefixOf entry.1) then
        some .directory
      else none

/-- The components of a path; empty ones lie around its separators. -/
def components (path : String) : List String :=
  (path.toList.splitOnP (· = '/')).map String.ofList

/-- The most bytes a name in a directory may have. -/
def nameLimit : Nat := 255

/-- The number of bytes from which on a path is too long. -/
def pathLimit : Nat := 4096

/-- The location of a name in a directory, where nothing need stand. -/
def entry (directory : Location) (name : String) : Except SystemError Location :=
  if nameLimit < name.utf8ByteSize then .error .nameTooLong else .ok (directory ++ [name])

/-- The location reached from a location by one component. -/
def step (tree : FileTree) (location : Location) (component : String) :
    Except SystemError Location :=
  match tree.node? location with
  | none => .error .notFound
  | some (.file _) | some (.device _) => .error .notDirectory
  | some .directory =>
      if component = "" ∨ component = "." then .ok location
      else if component = ".." then .ok location.dropLast
      else entry location component

/-- The location a path starts from. -/
def origin (tree : FileTree) (path : String) : Location :=
  if path.toList.head? = some '/' then [] else tree.current

/-- A path that names nothing, or that the system does not take. -/
def checkPath (path : String) : Except SystemError Unit :=
  if path = "" then .error .notFound
  else if path.toList.contains '\x00' then .error .nulInPath
  else if pathLimit ≤ path.utf8ByteSize then .error .nameTooLong
  else .ok ()

/-- The location a path leads to, where nothing need stand. -/
def locate (tree : FileTree) (path : String) : Except SystemError Location := do
  checkPath path
  (components path).foldlM tree.step (tree.origin path)

/-- What a path leads to. -/
def resolve (tree : FileTree) (path : String) : Except SystemError (Location × Node) := do
  let location ← tree.locate path
  match tree.node? location with
  | some node => return (location, node)
  | none => .error .notFound

/-- The content of the file a path leads to. -/
def read (tree : FileTree) (path : String) : Except SystemError (List UInt8) := do
  match ← tree.resolve path with
  | (_, .file content) => return content
  | (_, .device _) => return []
  | (_, .directory) => .error .isDirectory

/-- The text of the file a path leads to. -/
def readText (tree : FileTree) (path : String) : Except SystemError String := do
  match Text.Utf8.decode? (← tree.read path) with
  | some text => return text
  | none => .error .notText

/-- The tree with a file of a given content at a location. -/
def put (tree : FileTree) (location : Location) (content : List UInt8) : FileTree :=
  { tree with
    entries := (location, .file content) ::
      tree.entries.filter fun entry => entry.1 ≠ location }

/-- The location of the file that a path opens for writing. A path that ends as only the path of
a directory may is not the path of a file, whatever it leads to. -/
def openFile (tree : FileTree) (path : String) : Except SystemError Location := do
  checkPath path
  let names := (components path).reverse.dropWhile (· = "")
  let parent ← names.tail.reverse.foldlM tree.step (tree.origin path)
  match tree.node? parent with
  | none => .error .notFound
  | some (.file _) | some (.device _) => .error .notDirectory
  | some .directory =>
      match names.head? with
      | none | some "." | some ".." => .error .isDirectory
      | some name =>
          if path.toList.getLast? = some '/' then .error .isDirectory
          else do
            let location ← entry parent name
            match tree.node? location with
            | some .directory => .error .isDirectory
            | _ => return location

/-- The nodes of a tree that another tree does not have in this form. -/
def changesSince (tree before : FileTree) : List (Location × Node) :=
  tree.entries.filter fun entry => before.entries.lookup entry.1 ≠ some entry.2

/-- The names that stand directly in a directory. -/
def namesIn (tree : FileTree) (directory : Location) : List String :=
  (tree.entries.filterMap fun entry =>
    if directory.isPrefixOf entry.1 then (entry.1.drop directory.length).head? else none).eraseDups

end FileTree

end AbiProbe

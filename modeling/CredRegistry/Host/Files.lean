import CredRegistry.Text.Utf8

/-!
# Files

The files of a computer, the directory a program works in, and how reading fails. A path
that starts with a slash is followed from the root, every other one from the directory that
the program works in. Links are left out: what one leads to stands in its place.
-/

namespace CredRegistry

open CredRegistry.Text

/-- What stands at a path. -/
inductive FileNode where
  | file (content : List UInt8)
  | directory
deriving Repr, DecidableEq

/-- Why a file cannot be used. -/
inductive FileError where
  | missing
  | exists
  | notDirectory
  | isDirectory
  | nameTooLong
  | zeroInName
  | notText
deriving Repr, DecidableEq

def FileError.message : FileError → String
  | .missing => "No such file or directory (os error 2)"
  | .exists => "File exists (os error 17)"
  | .notDirectory => "Not a directory (os error 20)"
  | .isDirectory => "Is a directory (os error 21)"
  | .nameTooLong => "File name too long (os error 36)"
  | .zeroInName => "file name contained an unexpected NUL byte"
  | .notText => "stream did not contain valid UTF-8"

/-- Files and directories by the names on the way to them. The directories on a way exist
as well. -/
abbrev Files := List (List String × FileNode)

/-- The names in a path, an empty one wherever nothing stands beside a slash. -/
def Files.names (path : String) : List String := (path.toList.splitOn '/').map String.ofList

/-- A directory of its own that a program is started in for want of another. -/
def scratchDirectory : List String := ["tmp", ".tmp000000"]

/-- The files of a computer by their ways from the root, and the way to the directory that
a program works in. -/
structure FileSystem where
  nodes : Files := []
  workDirectory : List String := scratchDirectory
deriving Repr, DecidableEq

namespace FileSystem

open Files

/-- Nothing but files in the scratch directory, by their ways from there. -/
instance : Coe Files FileSystem :=
  ⟨fun files => { nodes := files.map fun (way, node) => (scratchDirectory ++ way, node) }⟩

/-- The node with these names on the way to it. -/
def node? (fs : FileSystem) (way : List String) : Option FileNode :=
  match fs.nodes.lookup way with
  | some n => some n
  | none =>
      if way.isPrefixOf fs.workDirectory || fs.nodes.any (fun f => way.isPrefixOf f.1) then
        some .directory
      else none

def nameBound : Nat := 255

def pathBound : Nat := 4095

/-- Does a name lead to the directory it stands in, or upwards, whatever is there? -/
def isRelative (name : String) : Bool := name == "" || name == "." || name == ".."

/-- Where a name leads from a directory. Above the root there is nothing but the root. -/
def step (way : List String) (name : String) : List String :=
  if name == "" || name == "." then way
  else if name == ".." then way.dropLast
  else way ++ [name]

/-- The directory that a path starts from. -/
def origin (fs : FileSystem) (path : String) : List String :=
  if path.toList.head? == some '/' then [] else fs.workDirectory

/-- Follow names from a directory: the way to the node they lead to, which need not
exist if it is the last. -/
def follow (fs : FileSystem) : List String → List String → Except FileError (List String)
  | way, [] => .ok way
  | way, name :: names =>
      match fs.node? way with
      | none => .error .missing
      | some (.file _) => .error .notDirectory
      | some .directory =>
          if nameBound < name.utf8ByteSize then .error .nameTooLong
          else fs.follow (step way name) names

def find (fs : FileSystem) (path : String) : Except FileError FileNode :=
  if path.toList.contains '\x00' then .error .zeroInName
  else if path.isEmpty then .error .missing
  else if pathBound < path.utf8ByteSize then .error .nameTooLong
  else do
    let way ← fs.follow (fs.origin path) (names path)
    match fs.node? way with
    | some n => .ok n
    | none => .error .missing

/-- Make the directories that are missing on the way of names from a directory. A file
is in the way. -/
def makeBelow (fs : FileSystem) (way : List String) : List String → Except FileError FileSystem
  | [] => .ok fs
  | name :: names =>
      if nameBound < name.utf8ByteSize then .error .nameTooLong
      else
        let way := step way name
        match fs.node? way with
        | some (.file _) => .error .exists
        | some .directory => makeBelow fs way names
        | none => makeBelow { fs with nodes := (way, .directory) :: fs.nodes } way names

/-- Make the directory at a path, and those on the way to it, unless they are there. -/
def makeDirectories (fs : FileSystem) (path : String) : Except FileError FileSystem :=
  match fs.find path with
  | .ok .directory => .ok fs
  | .ok (.file _) => .error .exists
  | .error .missing => fs.makeBelow (fs.origin path) (names path)
  | .error e => .error e

def read (fs : FileSystem) (path : String) : Except FileError (List UInt8) := do
  match ← fs.find path with
  | .file content => .ok content
  | .directory => .error .isDirectory

/-- The content of the file at a path as a text. -/
def readText (fs : FileSystem) (path : String) : Except FileError String := do
  match fromUtf8 (← fs.read path) with
  | .ok s => .ok s
  | .error _ => .error .notText

end FileSystem

end CredRegistry

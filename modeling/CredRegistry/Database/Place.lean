import CredRegistry.Database.Basic
import CredRegistry.Host.Files

/-!
# Places of database files

The path of a database file is followed by its text: two dots drop the name in front
of them, whether there is something by that name or not. Beside the file stand others:
a journal, a log of what is written, and an index of that log.

`Place.fault?` is what keeps the file at a place from being used.
-/

namespace CredRegistry

/-- Where a database file is: the way from the root to its directory, and its name there. -/
structure Place where
  directory : List String
  name : String
deriving Repr, DecidableEq

namespace Place

def way (p : Place) : List String := p.directory ++ [p.name]

/-! ## Following a path -/

/-- The longest path of a database file, in bytes, with a slash in front of each name. -/
def bound : Nat := 504

def wayBound : Nat := 511

def length (way : List String) : Nat := way.foldl (fun n name => n + name.utf8ByteSize + 1) 0

/-- Where names lead to from a directory, unless a file or a length is in the way. -/
def follow (fs : FileSystem) : List String → List String → Option (List String)
  | way, [] => some way
  | way, name :: names =>
      let next := FileSystem.step way name
      if FileSystem.isRelative name then follow fs next names
      else
        let isBarred := match fs.node? way with
          | some (.file _) => true
          | some .directory => FileSystem.nameBound < name.utf8ByteSize
          | none => false
        if isBarred || wayBound < length next then none else follow fs next names

/-- The place of a path. The root is none: it has no name. -/
def ofPath? (fs : FileSystem) (path : String) : Option Place := do
  let way ← follow fs [] (fs.origin path ++ Files.names path)
  let name ← way.getLast?
  if length way ≤ bound then some ⟨way.dropLast, name⟩ else none

/-! ## What stands there -/

/-- The node at a place, and whether a file can be made there if there is none. -/
def node? (fs : FileSystem) (p : Place) : Option FileNode × Bool :=
  (fs.node? p.way, fs.node? p.directory == some .directory)

/-- What stands beside a place, under its name with an ending; none as well if that
name is too long. -/
def beside? (fs : FileSystem) (ending : String) (p : Place) : Option FileNode :=
  fs.node? (p.directory ++ [p.name ++ ending])

def occupied (fs : FileSystem) (p : Place) : FileSystem :=
  { fs with nodes := (p.way, .file []) :: fs.nodes }

/-- Is the name of a place with an ending too long? -/
def isTooLong (ending : String) (p : Place) : Bool :=
  FileSystem.nameBound < (p.name ++ ending).utf8ByteSize

def journalEnding : String := "-journal"

/-- The ending of the log of what is written. -/
def logEnding : String := "-wal"

def indexEnding : String := "-shm"

/-- The content of a file, none if there is no file. -/
def content : Option FileNode → List UInt8
  | some (.file content) => content
  | _ => []

/-- Does a journal ask for what it holds to be put back? It does if it starts with a
byte other than zero. -/
def isHot (journal : Option FileNode) : Bool := ((content journal).head?.getD 0) != 0

/-- Does a log start with a head of its own? The head takes 32 bytes, and those from the
sixteenth on for eight are never all zero. -/
def hasHead (log : Option FileNode) : Bool :=
  let bytes := content log
  32 ≤ bytes.length && ((bytes.drop 16).take 8).any (· != 0)

/-! ## Faults -/

/-- What keeps a file without content from being made a database. -/
def emptyFault? (fs : FileSystem) (a : DatabaseAddress) (p : Place) : Option StatementFault :=
  let isDirectory (ending : String) := p.beside? fs ending == some .directory
  if a.isFrozen then some .readOnly
  else if isDirectory logEnding then some .disk
  else if a.access == .readOnly then some .readOnly
  else if isDirectory journalEnding || p.isTooLong journalEnding then some (.cannotOpen none)
  else if a.hasIndex && isDirectory indexEnding then some .readOnly
  else none

/-- Why a file with other content is no database, or is not even read. -/
def contentFault (fs : FileSystem) (a : DatabaseAddress) (p : Place) : StatementFault :=
  let journal := p.beside? fs journalEnding
  let log := p.beside? fs logEnding
  if a.isFrozen then .notDatabase
  else if journal == some .directory then .disk
  else if a.access == .readOnly && isHot journal then .readOnly
  else if log == some .directory then .cannotOpen none
  else if !a.hasLog && !(content log).isEmpty then .cannotOpen none
  else if a.hasIndex && hasHead log && p.beside? fs indexEnding == some .directory then .locking
  else .notDatabase

/-- What keeps the file at a place from being used; `given` is what it is called. A
single byte counts as no content. -/
def fault? (fs : FileSystem) (given : String) (a : DatabaseAddress) (p : Place) :
    Option StatementFault :=
  let isModelMissing := match a.settings.lookup "modeof" with
    | some path => (fs.find path).toOption.isNone
    | none => false
  if isModelMissing then some .disk
  else match p.node? fs with
    | (some .directory, _) =>
        some (if a.access == .readOnly then .disk else .cannotOpen (some given))
    | (some (.file bytes), _) =>
        if 1 < bytes.length then some (p.contentFault fs a) else p.emptyFault? fs a
    | (none, canBeMade) =>
        if a.access == .create && canBeMade then p.emptyFault? fs a
        else some (.cannotOpen (some given))

end Place

end CredRegistry

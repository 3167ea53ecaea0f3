import CredRegistry.Database.Migration
import CredRegistry.Database.Place

/-!
# Opening a database

A database is kept in a file or in memory. Opening one creates what is missing, the
directories in front of the file included, and brings the schema up to date.
-/

namespace CredRegistry

/-- Where a database is kept. -/
inductive DatabaseLocation where
  | file (path : String)
  | memory
deriving Repr, DecidableEq

def DatabaseLocation.text : DatabaseLocation → String
  | .file path => path
  | .memory => ":memory:"

/-- Without the slashes and single dots at the end of a path, which is read backwards. -/
def dropIdleNames : List Char → List Char
  | ['/'] => ['/']
  | '/' :: cs => dropIdleNames cs
  | '.' :: '/' :: cs => dropIdleNames ('/' :: cs)
  | cs => cs

/-- The path of the directory a path lies in; empty if it names none. -/
def parentPath (path : String) : String :=
  let cs := dropIdleNames path.toList.reverse
  if cs == ['/'] then ""
  else String.ofList (dropIdleNames (cs.dropWhile (· ≠ '/'))).reverse

/-- The path of what has a path below a directory. -/
def pathBelow (directory path : String) : String :=
  if directory.endsWith "/" then directory ++ path else directory ++ "/" ++ path

namespace Database

def openTarget : String := "gitops_creds::db"

/-- The database file of a user, by the home directory. -/
def defaultPath (home : String) : String := pathBelow home ".gitops-creds/data/credentials.db"

/-- What keeps an address from being opened; `given` is what it is called. -/
def addressFault? (fs : FileSystem) (given : String) (a : DatabaseAddress) : Option StatementFault :=
  if a.isFleeting then if a.access == .readOnly then some .readOnly else none
  else if a.backing == .memory then
    if a.access == .readOnly || a.isFrozen then some .readOnly else none
  else match Place.ofPath? fs a.path with
    | none => some (.cannotOpen (some given))
    | some place => place.fault? fs given a

/-- The address that a text stands for, if it can be used. The directory in front of
the text as it is given is made first. -/
def locate (fs : FileSystem) (text : String) : Except DatabaseError DatabaseAddress := do
  let parent := parentPath text
  let fs ← match if parent.isEmpty then .ok fs else fs.makeDirectories parent with
    | .ok fs => .ok fs
    | .error e => .error (.file parent e)
  match DatabaseAddress.ofText text with
  | .error e => .error (.statement (.address e))
  | .ok a =>
      match addressFault? fs text a with
      | some e => .error (.statement e)
      | none => .ok a

/-- The files, once there is a database at an address. -/
def filesWith (fs : FileSystem) (text : String) : FileSystem :=
  match DatabaseAddress.ofText text with
  | .ok a =>
      if a.isFleeting || a.backing == .memory then fs
      else ((Place.ofPath? fs a.path).map (·.occupied fs)).getD fs
  | .error _ => fs

variable {m : Type → Type} [Monad m] [Log.MonadLog m]

/-- Bring a database up to date and report that it is ready. -/
def ready (location : DatabaseLocation) (db : Database) :
    m (Except DatabaseError Nat × Database) := do
  let (outcome, db) ← migrate Migration.all db
  match outcome with
  | .error e => pure (.error e, db)
  | .ok version =>
      Log.note .info openTarget
        s!"Credential database ready at {location.text} (schema v{version})"
      pure (.ok version, db)

/-- Open the database at a location, where some state was left. It is found again if
the address is one that is kept. -/
def openAt (fs : FileSystem) (location : DatabaseLocation) (found : Database) :
    m (Except DatabaseError Nat × Database) :=
  match location with
  | .memory => ready location .new
  | .file text =>
      match locate fs text with
      | .error e => pure (.error e, found)
      | .ok a => ready location (if a.isKept then found else .new)

/-- Open a database again. One in memory alone stays as it is. -/
def reopen (fs : FileSystem) (location : DatabaseLocation) (db : Database) :
    m (Except DatabaseError Nat × Database) :=
  match location with
  | .memory => pure (.ok db.schemaVersion, db)
  | .file text => openAt (filesWith fs text) location db

end Database

end CredRegistry

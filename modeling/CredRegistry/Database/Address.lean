import CredRegistry.Text.Percent

/-!
# Addresses of databases

The text that says where a database is kept is the path of a file, unless it starts
with `file:`. Then it may go on with two slashes and a host, which has to be this one.
What follows is a path, percent signs standing for bytes, and behind a question mark
settings of the form `name=value`, with `&` between them. A number sign ends it.

`DatabaseAddress.ofText` reads such a text. `isKept` says which databases are still
there when they are opened again.
-/

namespace CredRegistry

open CredRegistry.Text

/-- What a database is opened for. -/
inductive Access where
  | readOnly
  | readWrite
  | create
  | memory
deriving Repr, DecidableEq

namespace Access

def ofText? : String → Option Access
  | "ro" => some .readOnly
  | "rw" => some .readWrite
  | "rwc" => some .create
  | "memory" => some .memory
  | _ => none

def rank : Access → Nat
  | .readOnly => 1
  | .readWrite => 2
  | .create => 3
  | .memory => 4

/-- May an access give way to another? It may not to one that allows more, but memory
is open to all. -/
def givesWayTo (a b : Access) : Bool := b == .memory || b.rank ≤ a.rank

end Access

/-- How the content of a database is kept. -/
inductive Backing where
  /-- In a file with locks, with a log of what is written and an index of it beside it. -/
  | locked
  /-- In a file that one process uses, with a log of what is written beside it. -/
  | exclusive
  /-- In a file without such a log. -/
  | plain
  /-- In memory. -/
  | memory
deriving Repr, DecidableEq

def Backing.ofText? : String → Option Backing
  | "unix" => some .locked
  | "unix-excl" => some .exclusive
  | "unix-none" => some .plain
  | "unix-dotfile" => some .plain
  | "memdb" => some .memory
  | _ => none

/-- Where and how a database is kept. -/
structure DatabaseAddress where
  path : String
  access : Access
  /-- Do all who open it share its content? -/
  shared : Bool
  backing : Backing
  settings : List (String × String)
deriving Repr, DecidableEq

/-- Why a text is no address. -/
inductive AddressFault where
  | zero (position : Nat)
  | host (name : String)
  | noMode (setting value : String)
  | refusedMode (setting value : String)
  | noBacking (name : String)
deriving Repr, DecidableEq

def AddressFault.message : AddressFault → String
  | .zero position => s!"nul byte found in provided data at position: {position}"
  | .host name => s!"invalid uri authority: {name}"
  | .noMode setting value => s!"no such {setting} mode: {value}"
  | .refusedMode setting value => s!"{setting} mode not allowed: {value}"
  | .noBacking name => s!"no such vfs: {name}"

namespace DatabaseAddress

/-- The path that stands for a database in memory. -/
def memoryPath : String := ":memory:"

def ofPath (path : String) : DatabaseAddress := ⟨path, .create, false, .locked, []⟩

/-! ## Reading -/

/-- The name and the value of a setting; none if it has no name. -/
def setting? (cs : List Char) : Option (String × String) :=
  let name := Percent.decode (cs.takeWhile (· ≠ '='))
  if name.isEmpty then none
  else some (name, Percent.decode ((cs.dropWhile (· ≠ '=')).drop 1))

/-- The settings there are behind a question mark. -/
def settingsOf (cs : List Char) : List (String × String) :=
  ((String.ofList cs).splitOn "&").filterMap fun s => setting? s.toList

def set (a : DatabaseAddress) : String × String → Except AddressFault DatabaseAddress
  | ("cache", "shared") => .ok { a with shared := true }
  | ("cache", "private") => .ok { a with shared := false }
  | ("cache", value) => .error (.noMode "cache" value)
  | ("mode", value) =>
      match Access.ofText? value with
      | none => .error (.noMode "access" value)
      | some access =>
          if a.access.givesWayTo access then .ok { a with access }
          else .error (.refusedMode "access" value)
  | _ => .ok a

def lastValue? (settings : List (String × String)) (name : String) : Option String :=
  settings.reverse.lookup name

/-- The address that the characters behind `file:` and the host stand for. -/
def ofTail (cs : List Char) : Except AddressFault DatabaseAddress := do
  let cs := cs.takeWhile (· ≠ '#')
  let path := Percent.decode (cs.takeWhile (· ≠ '?'))
  let settings := settingsOf ((cs.dropWhile (· ≠ '?')).drop 1)
  let a ← settings.foldlM set { ofPath path with settings }
  match lastValue? settings "vfs" with
  | none => .ok a
  | some name =>
      match Backing.ofText? name with
      | some backing => .ok { a with backing }
      | none => .error (.noBacking name)

/-- Does a text say more than the path of a file? -/
def isMarked (text : String) : Bool := text.startsWith "file:"

def ofText (text : String) : Except AddressFault DatabaseAddress :=
  let cs := text.toList
  if cs.contains '\x00' then .error (.zero (byteLength (cs.takeWhile (· ≠ '\x00'))))
  else if !isMarked text then .ok (ofPath text)
  else match cs.drop 5 with
    | '/' :: '/' :: cs =>
        let host := String.ofList (cs.takeWhile (· ≠ '/'))
        if host.isEmpty || host == "localhost" then ofTail (cs.dropWhile (· ≠ '/'))
        else .error (.host host)
    | cs => ofTail cs

/-! ## What an address asks for -/

/-- Is the database in memory, whatever its backing? -/
def inMemory (a : DatabaseAddress) : Bool := a.access == .memory || a.path == memoryPath

/-- Is the database in no file that has a name? -/
def isFleeting (a : DatabaseAddress) : Bool := a.path.isEmpty || a.inMemory

/-- Is a value a yes? A number is unless it is a multiple of 256 or too large. -/
def isYes (value : String) : Bool :=
  let digits := value.toList.takeWhile Char.isDigit
  if digits.isEmpty then ["on", "yes", "true"].contains value.toLower
  else
    let n := digits.foldl (fun n c => 10 * n + (c.toNat - 48)) 0
    n < 0x80000000 && n % 256 ≠ 0

def asks (a : DatabaseAddress) (name : String) : Bool :=
  ((a.settings.lookup name).map isYes).getD false

def isFrozen (a : DatabaseAddress) : Bool := a.asks "immutable"

/-- Is there a log of what is written beside the file? -/
def hasLog (a : DatabaseAddress) : Bool := a.backing ≠ .plain && !a.asks "nolock"

/-- Is there an index of the log beside the file? -/
def hasIndex (a : DatabaseAddress) : Bool := a.backing == .locked && a.hasLog

/-- Does a path name a database in memory that can be found again? -/
def isSharedName (path : String) : Bool :=
  1 < path.utf8ByteSize && (path.startsWith "/" || path.startsWith "\\")

/-- Is the database still there when it is opened again? -/
def isKept (a : DatabaseAddress) : Bool :=
  if a.path.isEmpty then false
  else if a.inMemory then a.shared
  else a.backing ≠ .memory || a.shared || isSharedName a.path

end DatabaseAddress

end CredRegistry

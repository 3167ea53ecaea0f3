import CredRegistry.Database.Address
import CredRegistry.Database.Cell
import CredRegistry.Log

/-!
# The database

A database of one table of credentials, and the list of the migrations that have
made it what it is. Ids are handed out in ascending order and never again.

`Database.answer` answers a call. `Database.migrate` brings a database up to date:
each migration with a higher version than the highest on record is run once, in
order, and then put on record.
-/

namespace CredRegistry

/-! ## Errors -/

/-- Why a statement fails. -/
inductive StatementFault where
  | noTable
  | noColumn (name : String)
  | cell (fault : CellFault)
  /-- An id is no integer. -/
  | mismatch
  /-- An id is taken. -/
  | idTaken
  /-- There is no id left that could be handed out. -/
  | full
  | notDatabase
  /-- A file cannot be opened; the path is known if it is that of the database. -/
  | cannotOpen (path : Option String)
  /-- The database may not be written. -/
  | readOnly
  /-- A file cannot be read or removed. -/
  | disk
  /-- Locks cannot be had. -/
  | locking
  | address (fault : AddressFault)
deriving Repr, DecidableEq

def tableName : String := "gitops_config"

def StatementFault.message : StatementFault → String
  | .noTable => s!"no such table: {tableName}"
  | .noColumn name => s!"no such column: {name}"
  | .cell fault => fault.message
  | .mismatch => "datatype mismatch"
  | .idTaken => s!"UNIQUE constraint failed: {tableName}.id"
  | .full => "database or disk is full"
  | .notDatabase => "file is not a database"
  | .cannotOpen none => "unable to open database file"
  | .cannotOpen (some path) => s!"unable to open database file: {path}"
  | .readOnly => "attempt to write a readonly database"
  | .disk => "disk I/O error"
  | .locking => "locking protocol"
  | .address fault => fault.message

/-- Why the database fails. -/
inductive DatabaseError where
  | statement (fault : StatementFault)
  | file (path : String) (error : FileError)
  | migration (version : Nat) (reason : String)
deriving Repr, DecidableEq

def DatabaseError.message : DatabaseError → String
  | .statement fault => s!"SQLite error: {fault.message}"
  | .file path e => s!"IO error for path '{path}': {e.message}"
  | .migration version reason => s!"Migration failed at version {version}: {reason}"

/-! ## Tables -/

/-- The table of credentials: its rows in the order of their ids, and the last id
that was handed out. -/
structure Table where
  rows : List (Int × CellRow)
  lastId : Int
deriving Repr, DecidableEq

namespace Table

def empty : Table := ⟨[], 0⟩

/-- The greatest id that is in use or was handed out. -/
def greatestId (t : Table) : Int := t.rows.foldl (fun n r => max n r.1) t.lastId

def insert (t : Table) (r : Row) : Except StatementFault (Int × Table) :=
  let id := t.greatestId + 1
  if Cell.integerBounds.2 < id then .error .full
  else .ok (id, ⟨t.rows ++ [(id, .ofRow r)], id⟩)

/-- Change the cells of the row with an id; says how many rows there were. -/
def alter (t : Table) (id : Int) (f : CellRow → CellRow) : Nat × Table :=
  ((t.rows.filter (·.1 = id)).length,
    { t with rows := t.rows.map fun r => if r.1 = id then (r.1, f r.2) else r })

/-- Put a row in its place in the order of the ids. -/
def place (r : Int × CellRow) : List (Int × CellRow) → List (Int × CellRow)
  | [] => [r]
  | r' :: rs => if r.1 < r'.1 then r :: r' :: rs else r' :: place r rs

/-- Give the row with an id another id, which does not count as handed out. -/
def renumber (t : Table) (id : Int) (v : Cell) : Except StatementFault (Nat × Table) :=
  match t.rows.lookup id, v.toNumericColumn with
  | none, _ => .ok (0, t)
  | some c, .integer new =>
      let others := t.rows.filter (·.1 ≠ id)
      if others.any (·.1 = new) then .error .idTaken
      else .ok (1, ⟨place (new, c) others, t.lastId⟩)
  | some _, _ => .error .mismatch

def find? (t : Table) (id : Int) : Option CellRow := t.rows.lookup id

end Table

/-- What stands under the name of the table. -/
inductive TableState where
  | absent
  /-- A table of another kind. -/
  | foreign
  | present (t : Table)
deriving Repr, DecidableEq

/-- A database. -/
structure Database where
  /-- The versions of the migrations on record, if there is a record. -/
  versions : Option (List Nat)
  table : TableState
deriving Repr, DecidableEq

def Database.new : Database := ⟨none, .absent⟩

/-! ## Calls -/

/-- The calls that are made to a database. -/
inductive DatabaseCall where
  | insert (row : Row)
  | update (row : Row)
  | findById (id : Int)
  | findAll
  /-- The row of a provider with the lowest id. -/
  | findByProvider (provider : String)
deriving Repr

abbrev DatabaseCall.Answer : DatabaseCall → Type
  | .insert _ => Except DatabaseError Int
  | .update _ => Except DatabaseError Nat
  | .findById _ => Except DatabaseError (Option Row)
  | .findAll => Except DatabaseError (List Row)
  | .findByProvider _ => Except DatabaseError (Option Row)

namespace Database

def failed {α : Type} (f : StatementFault) : Except DatabaseError α := .error (.statement f)

/-- What a statement fails with when the table is not the one that is meant. A table
of another kind lacks the columns after the first. -/
def misfit {α : Type} : TableState → Except DatabaseError α
  | .foreign => failed (.noColumn "provider")
  | _ => failed .noTable

def readRow (r : Int × CellRow) : Except DatabaseError Row :=
  match r.2.read r.1 with
  | .ok row => .ok row
  | .error fault => failed (.cell fault)

def readRow? : Option (Int × CellRow) → Except DatabaseError (Option Row)
  | none => .ok none
  | some r => some <$> readRow r

def answer (db : Database) : (c : DatabaseCall) → c.Answer × Database
  | .insert r =>
      match db.table with
      | .present t =>
          match t.insert r with
          | .ok (id, t) => (.ok id, { db with table := .present t })
          | .error fault => (failed fault, db)
      | other => (misfit other, db)
  | .update r =>
      match db.table with
      | .present t =>
          let (count, t) := t.alter r.id (·.overwrite r)
          (.ok count, { db with table := .present t })
      | other => (misfit other, db)
  | .findById id =>
      match db.table with
      | .present t => (readRow? (t.rows.find? (·.1 = id)), db)
      | other => (misfit other, db)
  | .findAll =>
      match db.table with
      | .present t => (t.rows.mapM readRow, db)
      | other => (misfit other, db)
  | .findByProvider p =>
      match db.table with
      | .present t => (readRow? (t.rows.find? (·.2.provider = .text p)), db)
      | other => (misfit other, db)

def idNames : List String := ["id", "rowid", "_rowid_", "oid"]

/-- Put a value into one cell, past all checks but those of the table; says how many
rows there were. -/
def setCell (db : Database) (id : Int) (column : String) (v : Cell) :
    Except DatabaseError (Nat × Database) :=
  match db.table with
  | .present t =>
      let name := CellRow.columnName column
      let key := name.map Char.toLower
      if idNames.contains key then
        match t.renumber id v with
        | .ok (count, t) => .ok (count, { db with table := .present t })
        | .error fault => failed fault
      else match (CellRow.ofRow default).set? key v with
      | none => failed (.noColumn name)
      | some _ =>
          let (count, t) := t.alter id fun c => (c.set? key v).getD c
          .ok (count, { db with table := .present t })
  | other => misfit other

end Database

end CredRegistry

import CredRegistry.Database.Basic

/-!
# Migrations

A migration turns the table of one version of the schema into that of the next. A
database keeps a record of the versions it has been through; those above the highest
on record are still to be run.
-/

namespace CredRegistry

/-- A step from one version of the schema to the next. -/
structure Migration where
  version : Nat
  description : String
  /-- Why the step fails, if it does, and the table after it. A step that fails may have
  done a part of its work, which is not undone. -/
  apply : TableState → Except String Unit × TableState

namespace Migration

/-- The statements of the first step that need the columns of the table. -/
def indexStatements : String :=
  "\n\nCREATE INDEX IF NOT EXISTS idx_gitops_config_provider ON gitops_config(provider);"
    ++ "\nCREATE INDEX IF NOT EXISTS idx_gitops_config_host ON gitops_config(host);\n"

/-- Where the first of these statements names a column. -/
def indexColumnOffset : Nat := ((indexStatements.splitOn "provider);").headD "").length

/-- Create the table, unless there is one by its name, and index its columns. -/
def createTable : TableState → Except String Unit × TableState
  | .absent => (.ok (), .present .empty)
  | .present t => (.ok (), .present t)
  | .foreign =>
      (.error s!"no such column: provider in {indexStatements} at offset {indexColumnOffset}",
        .foreign)

def all : List Migration := [⟨1, "create_gitops_config_table", createTable⟩]

end Migration

namespace Database

def migrationTarget : String := "gitops_creds::db::migrations"

/-- The highest version on record, zero if there is none. -/
def schemaVersion (db : Database) : Nat := (db.versions.getD []).foldl max 0

/-- The database with a version put on record. -/
def recordVersion (db : Database) (version : Nat) : Database :=
  { db with versions := some (db.versions.getD [] ++ [version]) }

variable {m : Type → Type} [Monad m] [Log.MonadLog m]

/-- Run steps one after the other, up to one that fails; `version` is the last that
was run. -/
def runSteps : List Migration → (version : Nat) → Database →
    m (Except DatabaseError Nat × Database)
  | [], version, db => pure (.ok version, db)
  | step :: steps, _, db => do
      Log.note .info migrationTarget s!"Running migration v{step.version}: {step.description}"
      match step.apply db.table with
      | (.error reason, table) => pure (.error (.migration step.version reason), { db with table })
      | (.ok (), table) =>
          runSteps steps step.version ({ db with table }.recordVersion step.version)

/-- Run the steps above the highest version on record; says which version is reached. -/
def migrate (steps : List Migration) (db : Database) : m (Except DatabaseError Nat × Database) :=
  let start := db.schemaVersion
  runSteps (steps.filter fun s => start < s.version) start
    { db with versions := some (db.versions.getD []) }

end Database

end CredRegistry

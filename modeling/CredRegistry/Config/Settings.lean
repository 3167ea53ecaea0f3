import CredRegistry.Json.Source
import CredRegistry.Service

/-!
# Settings

What an installation can set: where the database is, which config map of which
cluster holds the list, how much is logged, and where the key for tokens comes
from. All but the version of the format has a default.

`ofSource` reads settings from JSON and `toJson` writes them. The key for tokens is
read and never written out.
-/

namespace CredRegistry

open CredRegistry.Text

/-- The database file, if it is not the default one. -/
structure DatabaseSettings where
  path : Option String := none
deriving Repr, DecidableEq

/-- The cluster. -/
structure ClusterSettings where
  name : String := Target.standard.cluster
deriving Repr, DecidableEq

/-- The config map that holds the list. -/
structure ArgoCdSettings where
  space : String := Target.standard.space
  configMap : String := Target.standard.configMap
deriving Repr, DecidableEq

/-- What is logged, and whether as JSON. -/
structure LoggingSettings where
  level : String := "info"
  json : Bool := false
deriving Repr, DecidableEq

/-- The variable that holds the key for tokens, unless another is set. -/
def tokenKeyVariable : String := "GITOPS_TOKEN_KEY"

/-- The settings of an installation. -/
structure Settings where
  version : String
  database : DatabaseSettings := {}
  cluster : ClusterSettings := {}
  argoCd : ArgoCdSettings := {}
  logging : LoggingSettings := {}
  tokenKey : Option String := none
  tokenKeyFile : Option String := none
  tokenKeyVariable : Option String := some CredRegistry.tokenKeyVariable
deriving Repr, DecidableEq

namespace Settings

def formatVersion : String := "1.0"

def standard : Settings := { version := formatVersion }

def target (s : Settings) : Target := ⟨s.cluster.name, s.argoCd.space, s.argoCd.configMap⟩

/-! ## Messages -/

/-- A text that may be missing, in a message. -/
def textSummary : Option String → String := optionText quoted

/-- Settings in a message. The key is not shown. -/
def summary (s : Settings) : String :=
  recordText "ServiceConfig"
    [("version", quoted s.version),
      ("database", recordText "DatabaseSettings" [("path", textSummary s.database.path)]),
      ("cluster", recordText "ClusterSettings" [("name", quoted s.cluster.name)]),
      ("argocd", recordText "ArgoCdSettings"
        [("namespace", quoted s.argoCd.space), ("config_map_name", quoted s.argoCd.configMap)]),
      ("logging", recordText "LoggingSettings"
        [("level", quoted s.logging.level), ("json", toString s.logging.json)]),
      ("token_key", textSummary (s.tokenKey.map fun _ => redacted)),
      ("token_key_file", textSummary s.tokenKeyFile),
      ("token_key_env_var", textSummary s.tokenKeyVariable)]

/-! ## JSON -/

def toJson (s : Settings) : Json.Value :=
  .object [
    ("version", .str s.version),
    ("database", .object [("path", .ofString? s.database.path)]),
    ("cluster", .object [("name", .str s.cluster.name)]),
    ("argocd", .object
      [("namespace", .str s.argoCd.space), ("configMapName", .str s.argoCd.configMap)]),
    ("logging", .object [("level", .str s.logging.level), ("json", .bool s.logging.json)]),
    ("tokenKeyFile", .ofString? s.tokenKeyFile),
    ("tokenKeyEnvVar", .ofString? s.tokenKeyVariable)]

section Reading

variable {m : Type → Type} [Monad m] (source : Json.Source m)

def readDatabase : m DatabaseSettings :=
  source.record "struct DatabaseSettings"
    [⟨"path", fun d => do
      let path ← source.optional source.string
      pure { d with path }⟩]
    {} fun _ d => pure d

def readCluster : m ClusterSettings :=
  source.record "struct ClusterSettings"
    [⟨"name", fun c => do
      let name ← source.string
      pure { c with name }⟩]
    {} fun _ c => pure c

def readArgoCd : m ArgoCdSettings :=
  source.record "struct ArgoCdSettings"
    [⟨"namespace", fun a => do
      let space ← source.string
      pure { a with space }⟩,
     ⟨"configMapName", fun a => do
      let configMap ← source.string
      pure { a with configMap }⟩]
    {} fun _ a => pure a

def readLogging : m LoggingSettings :=
  source.record "struct LoggingSettings"
    [⟨"level", fun l => do
      let level ← source.string
      pure { l with level }⟩,
     ⟨"json", fun l => do
      let json ← source.boolean
      pure { l with json }⟩]
    {} fun _ l => pure l

def fields : List (Json.Field m Settings) :=
  [ ⟨"version", fun s => do
      let version ← source.string
      pure { s with version }⟩,
    ⟨"database", fun s => do
      let database ← readDatabase source
      pure { s with database }⟩,
    ⟨"cluster", fun s => do
      let cluster ← readCluster source
      pure { s with cluster }⟩,
    ⟨"argocd", fun s => do
      let argoCd ← readArgoCd source
      pure { s with argoCd }⟩,
    ⟨"logging", fun s => do
      let logging ← readLogging source
      pure { s with logging }⟩,
    ⟨"tokenKey", fun s => do
      let tokenKey ← source.optional source.string
      pure { s with tokenKey }⟩,
    ⟨"tokenKeyFile", fun s => do
      let tokenKeyFile ← source.optional source.string
      pure { s with tokenKeyFile }⟩,
    ⟨"tokenKeyEnvVar", fun s => do
      let tokenKeyVariable ← source.optional source.string
      pure { s with tokenKeyVariable }⟩ ]

/-- Read settings from JSON. Only the version has to be there. -/
def ofSource : m Settings :=
  source.record "struct ServiceConfig" (fields source) standard fun given s =>
    match given with
    | .items 0 => source.refuse (.invalidLength 0 "struct ServiceConfig with 8 elements")
    | .items _ => pure s
    | .fields seen =>
        if seen.contains "version" then pure s else source.refuse (.missingField "version")

end Reading

def ofValue (v : Json.Value) : Except Json.Error Settings :=
  Json.fromValue (ofSource Json.valueSource) v

end Settings

end CredRegistry

import CredRegistry.Config.Schema
import CredRegistry.Database.Location
import CredRegistry.Host.Secret

/-!
# Loading settings

Settings are a JSON text that fits the schema. Variables override which config map
of which cluster it is, and what comes out is checked once more.

`effective` is what a text comes to; `load` reports the overrides as well.
-/

namespace CredRegistry

open CredRegistry.Text

/-- What is wrong with settings. -/
inductive SettingsFault where
  | unsupportedVersion (version : String)
  | blankField (name : String)
  | unknownLevel (level : String)
  | noDatabasePath
deriving Repr, DecidableEq

def SettingsFault.message : SettingsFault → String
  | .unsupportedVersion version => s!"Unsupported config version: {version}"
  | .blankField name => s!"{name} must not be empty"
  | .unknownLevel level => s!"Unknown log level: {level}"
  | .noDatabasePath => "No database path configured and no home directory found"

/-- Why there are no settings, or what they ask for cannot be had. -/
inductive ConfigError where
  | unreadableFile (path : String) (error : FileError)
  | notJson (error : Json.Error)
  | misfit (faults : List Json.SchemaFault)
  | invalid (fault : SettingsFault)
  | tokenKey (error : SecretError)
deriving Repr

def ConfigError.message : ConfigError → String
  | .unreadableFile path e => s!"Failed to read config file '{path}': {e.message}"
  | .notJson e => s!"Failed to parse config JSON: {e.message}"
  | .misfit faults =>
      let texts := "; ".intercalate (faults.map Json.SchemaFault.message)
      s!"Schema validation failed: {texts}"
  | .invalid fault => s!"Config validation failed: {fault.message}"
  | .tokenKey e => s!"Failed to resolve token encryption key: {e.message}"

namespace Settings

def loadTarget : String := "gitops_creds::config::loader"

/-! ## Overrides -/

/-- The variable that overrides the namespace of the config map. -/
def spaceVariable : String := "ACD_NAMESPACE"

/-- The variable that overrides the name of the config map. -/
def configMapVariable : String := "ACD_CM"

/-- The variable that overrides the name of the cluster. -/
def clusterVariable : String := "GITOPS_CLUSTER_NAME"

/-- What a variable overrides a setting with: its text, unless that is blank. -/
def override? (h : Host) (name : String) : Option String :=
  (h.variableText name).toOption.filter fun s => !isBlankText s

/-- The settings with the overrides of the variables. -/
def overridden (h : Host) (s : Settings) : Settings :=
  { s with
    cluster := ⟨(override? h clusterVariable).getD s.cluster.name⟩
    argoCd := ⟨(override? h spaceVariable).getD s.argoCd.space,
      (override? h configMapVariable).getD s.argoCd.configMap⟩ }

def overrideNotes (h : Host) : List String :=
  let note (name what : String) : List String :=
    if (override? h name).isSome then [s!"{what} overridden by {name}"] else []
  note spaceVariable "Argo CD namespace" ++ note configMapVariable "Argo CD config map"
    ++ note clusterVariable "Cluster name"

/-! ## Checks -/

def names (s : Settings) : List (String × String) :=
  [("cluster.name", s.cluster.name), ("argocd.namespace", s.argoCd.space),
    ("argocd.configMapName", s.argoCd.configMap)]

def fault? (s : Settings) : Option SettingsFault :=
  if s.version ≠ formatVersion then some (.unsupportedVersion s.version)
  else
    match s.names.find? fun f => isBlankText f.2 with
    | some (name, _) => some (.blankField name)
    | none =>
        if levelNames.contains (s.logging.level.map Char.toLower) then none
        else some (.unknownLevel s.logging.level)

/-- The settings, unless something is wrong with them. -/
def checked (s : Settings) : Except ConfigError Settings :=
  match s.fault? with
  | none => .ok s
  | some fault => .error (.invalid fault)

/-! ## Loading -/

/-- The settings that a text holds by itself. -/
def ofText (text : String) : Except ConfigError Settings :=
  match Json.Value.ofText text with
  | .error e => .error (.notJson e)
  | .ok v =>
      match schema.faults v with
      | [] =>
          match ofValue v with
          | .error e => .error (.notJson e)
          | .ok s => .ok s
      | faults => .error (.misfit faults)

/-- The settings that a text comes to with the overrides. -/
def effective (h : Host) (text : String) : Except ConfigError Settings := do
  checked (overridden h (← ofText text))

section Reporting

variable {m : Type → Type} [Monad m] [Log.MonadLog m]

def reportOverrides : List String → m Unit
  | [] => pure ()
  | text :: texts => do
      Log.note .debug loadTarget text
      reportOverrides texts

def override (h : Host) (s : Settings) : m Settings := do
  reportOverrides (overrideNotes h)
  pure (overridden h s)

def load (h : Host) (text : String) : m (Except ConfigError Settings) := do
  match ofText text with
  | .error e => pure (.error e)
  | .ok s => checked <$> override h s

def loadFile (h : Host) (path : String) : m (Except ConfigError Settings) :=
  match h.files.readText path with
  | .error e => pure (.error (.unreadableFile path e))
  | .ok text => load h text

end Reporting

/-! ## What settings ask for -/

def databasePath (h : Host) (s : Settings) : Except ConfigError String :=
  match s.database.path, h.home? with
  | some path, _ => .ok path
  | none, some home => .ok (Database.defaultPath home)
  | none, none => .error (.invalid .noDatabasePath)

def keySources (s : Settings) : Host.SecretSources :=
  ⟨s.tokenKey, s.tokenKeyFile, s.tokenKeyVariable⟩

/-- The text of the key for tokens, if there is one. -/
def keyText? (h : Host) (s : Settings) : Except ConfigError (Option String) :=
  match h.resolveSecret? s.keySources with
  | .ok text => .ok text
  | .error e => .error (.tokenKey e)

def keyOfText (text : String) : Except ConfigError TokenKey :=
  match TokenKey.ofText text with
  | .ok key => .ok key
  | .error e => .error (.tokenKey e)

def key? (h : Host) (s : Settings) : Except ConfigError (Option TokenKey) := do
  match ← s.keyText? h with
  | some text => some <$> keyOfText text
  | none => pure none

/-- Find the key for tokens and report whether there is one. -/
def findKey {m : Type → Type} [Monad m] [Log.MonadLog m] (h : Host) (s : Settings) :
    m (Except ConfigError (Option TokenKey)) := do
  match s.keyText? h with
  | .ok (some _) => Log.note .info loadTarget "Token encryption enabled"
  | .ok none =>
      Log.note .warn loadTarget "No token key configured; tokens will be stored in plaintext"
  | .error _ => pure ()
  pure (s.key? h)

end Settings

end CredRegistry
